import Interlink.Braced.Goal

/-!
# Types

A type is a group of the calls, names and patterns inside it: `import('m')` and `typeof f(x)` are calls,
and the names before a dot or after `typeof` are identifiers.
-/

namespace Interlink.Braced

open Syntax Syntax.Reader

def typeKeywords : List String :=
  ["keyof", "readonly", "infer", "typeof", "new", "abstract", "import", "asserts"]

def propertyKey (g : Grammar) : Reader Tree :=
  (do let _ ← word; return .group []) <|>
  (do privateName; return .group []) <|>
  (do let _ ← stringLiteral; return .group []) <|>
  (do number; return .group []) <|>
  (do symbol "["; let e ← g.expression .enclosed; symbol "]"; return e)

namespace Grammar
variable (g : Grammar)

def typeArguments : Reader Tree := do
  symbol "<"
  let ts ← listed (g.type .enclosed)
  symbol ">"
  return .group ts

def arguments : Reader (List Tree) := do
  symbol "("
  let args ← loose ((do symbol "..."; return .group [← g.expression .enclosed]) <|> g.expression .enclosed)
  symbol ")"
  return args

def typeParameter : Reader Tree := do
  let _ ← option? (do keyword "const"; require (ahead word))
  let _ ← word
  let bound ← optionally ((keyword "extends" <|> symbol ":") *> g.type .enclosed)
  let value ← optionally (symbol "=" *> g.type .enclosed)
  return .group [bound, value]

def typeParameters : Reader Tree := do
  symbol "<"
  let ps ← listed g.typeParameter
  symbol ">"
  return .group ps

def annotation (b : Boundary) : Reader Tree := do symbol ":"; g.type b

/-- `x is T`, or `asserts x is T`, where a function's result is described. -/
def predicate (b : Boundary) : Reader Tree := do
  let subject : Reader Tree := do
    let w ← word
    return if w == "this" then .group [] else .identifier w
  let claim : Reader Tree := do
    let s ← subject
    keyword "is"
    return .group [s, ← g.type b]
  (do keyword "asserts"
      claim <|> (do let s ← subject; guard !(← ahead (keyword "is")); return s)) <|> claim

def resultAnnotation (b : Boundary) : Reader Tree := do
  symbol ":"
  g.predicate b <|> g.type b

def decorator : Reader Tree := do
  symbol "@"
  located fun l => do
    let member : Reader Tree := do
      let w ← word
      let _ ← many (do symbol "."; let _ ← word)
      return .identifier w
    let called : Reader Tree := do
      let callee ← member
      (do let types ← optionally g.typeArguments
          return .call l callee [types] (← g.arguments)) <|> pure callee
    (do symbol "("; let e ← called; symbol ")"; return .group [e]) <|> called

def parameterModifiers : List String := ["public", "private", "protected", "override", "readonly"]

def parameter : Reader Tree := do
  let decorators ← many g.decorator
  let _ ← many do
    let w ← word
    guard (parameterModifiers.contains w)
    require (ahead ((do let _ ← word) <|> symbol "\x7b" <|> symbol "[" <|> symbol "..."))
  let p ← (do keyword "this"; return .group []) <|> g.read .pattern
  let _ ← option? (symbol "?")
  let a ← optionally (g.annotation .enclosed)
  let v ← optionally (symbol "=" *> g.expression .enclosed)
  return .group (decorators ++ [p, a, v])

def parameters : Reader Tree := do
  symbol "("
  let ps ← (listed g.parameter) <|> pure []
  symbol ")"
  return .group ps

def signature (b : Boundary) : Reader Tree := do
  let ts ← optionally g.typeParameters
  let ps ← g.parameters
  let r ← optionally (g.resultAnnotation b)
  return .group [ts, ps, r]

def functionType (b : Boundary) : Reader Tree := do
  let ts ← optionally g.typeParameters
  let ps ← g.parameters
  symbol "=>"
  let r ← g.predicate b <|> g.type b
  return .group [ts, ps, r]

def constructorType (b : Boundary) : Reader Tree := do
  let _ ← option? (keyword "abstract")
  keyword "new"
  g.functionType b

/-! ## Members of object types -/

/-- A colon, with the marks that a mapped type may put before it. -/
def mappedAnnotation : Reader Tree := do
  symbol ":" <|> symbol "?:" <|> symbol "-?:" <|> symbol "+?:"
  g.type .line

def indexSignature : Reader Tree := do
  let _ ← option? do
    let _ ← option? (symbol "-" <|> symbol "+")
    keyword "readonly"
  symbol "["
  let name ← word
  let inner ←
    (do symbol ":"; return .group [.identifier name, ← g.type .enclosed]) <|>
    (do keyword "in"
        let t ← g.type .enclosed
        return .group [t, ← optionally (keyword "as" *> g.type .enclosed)])
  symbol "]"
  return .group [inner, ← g.mappedAnnotation]

def memberModifiers : List String :=
  ["public", "private", "protected", "static", "override", "readonly", "async", "get", "set",
   "declare", "abstract", "accessor"]

/-- A modifier: a word of `memberModifiers` before another word or name. -/
def modifier : Reader String := do
  let w ← word
  guard (memberModifiers.contains w)
  require (ahead ((do let _ ← word) <|> privateName <|> (do let _ ← stringLiteral) <|> number <|>
    symbol "[" <|> symbol "*"))
  return w

def typeMember : Reader Tree :=
  g.indexSignature <|>
  (do let _ ← option? (keyword "abstract")
      keyword "new"
      let ts ← optionally g.typeParameters
      let ps ← g.parameters
      return .group [ts, ps, ← optionally (g.annotation .line)]) <|>
  g.signature .line <|>
  (do let _ ← many modifier
      let _ ← option? (symbol "*")
      let key ← propertyKey g
      let _ ← option? (symbol "?")
      (do let s ← g.signature .line; return .group [key, s]) <|>
      (do return .group [key, ← optionally (g.annotation .line)]))

def objectType : Reader Tree := do
  symbol "\x7b|" <|> symbol "\x7b"
  let _ ← option? (symbol "," <|> symbol ";")
  let members ← (do
    let first ← g.typeMember
    let rest ← many (do (symbol "," <|> semicolon .line); g.typeMember)
    return first :: rest) <|> pure []
  let _ ← option? (symbol "," <|> symbol ";")
  symbol "|\x7d" <|> symbol "\x7d"
  return .group members

/-! ## Types proper -/

def tupleMember : Reader Tree :=
  (do symbol "..."
      let w ← word
      symbol ":"
      return .group [.identifier w, ← g.type .enclosed]) <|>
  (do symbol "..."; g.type .enclosed) <|>
  (do let w ← word
      let _ ← option? (symbol "?")
      symbol ":"
      return .group [.identifier w, ← g.type .enclosed]) <|>
  (do let t ← g.type .enclosed; let _ ← option? (symbol "?"); return t)

/-- The names and accesses that follow `typeof` or an imported module. -/
def queryChain (l : Nat) (head : Tree) : Reader Tree := do
  let steps ← many do
    (do symbol "." <|> symbol "?."
        (do let _ ← word) <|> privateName
        return none) <|>
    (do symbol "["
        (do let _ ← stringLiteral) <|> number <|> (do let _ ← word)
        symbol "]"
        return none) <|>
    (do return some (← g.arguments))
  return steps.foldl (fun t step =>
    match step with
    | none => .group [t]
    | some args => .call l t [] args) head

def importType : Reader Tree :=
  located fun l => do
    keyword "import"
    let args ← g.arguments
    let steps ← many do
      symbol "."
      (do let _ ← word) <|> privateName
    return if steps.isEmpty then .call l .importer [] args else .group [.call l .importer [] args]

def typeQuery : Reader Tree := do
  keyword "typeof"
  located fun l => do
    let w ← word
    let head : Tree := if w == "import" then .importer else if w == "this" then .group [] else .identifier w
    let t ← g.queryChain l head
    return .group [t, ← optionally g.typeArguments]

def templateType : Reader Tree := do
  symbol "\x60"
  let parts ← many (
    (do templateText; return .group []) <|>
    (do exactly '$'; exactly '\x7b'; let t ← g.type .enclosed; symbol "\x7d"; return t))
  exactly '\x60'
  return .group parts

def namedType : Reader Tree := do
  let w ← wordExcept typeKeywords
  let rest ← many (do symbol "."; let _ ← word)
  let args ← optionally g.typeArguments
  return .group [if rest.isEmpty then .group [] else .identifier w, args]

def primaryType : Reader Tree := do
  let b ← bracketed
  match b with
  | some t => return t
  | none =>
    (do let _ ← stringLiteral; return .group []) <|>
    (do number; return .group []) <|>
    (do symbol "-" <|> symbol "+"; number; return .group []) <|>
    (do symbol "*"; return .group []) <|>
    (do keyword "unique"; keyword "symbol"; return .group []) <|>
    g.typeQuery <|> g.templateType <|> g.namedType
where
  bracketed : Reader (Option Tree) := do
    blanks
    match ← peek? with
    | some '(' => do
      symbol "("
      let t ← g.type .enclosed
      symbol ")"
      return some t
    | some '\x7b' => return some (← g.objectType)
    | some '[' => do
      symbol "["
      let ts ← (listed g.tupleMember) <|> pure []
      let _ ← option? (symbol ",")
      symbol "]"
      return some (.group ts)
    | _ => return none

def postfixType (b : Boundary) : Reader Tree := do
  let t ← g.primaryType
  let rest ← many do
    guard !(← b.stops)
    symbol "["
    let inner ← optionally (g.type .enclosed)
    symbol "]"
    return inner
  return .group (t :: rest)

def unaryType (b : Boundary) : Reader Tree := do
  let w ← wordAhead
  let opensFunction ← isFunction
  if opensFunction then g.functionType b
  else if w == "keyof" then do keyword "keyof"; g.postfixType b
  else if w == "readonly" then do keyword "readonly"; g.type b
  else if w == "infer" then do
    keyword "infer"
    let _ ← word
    optionally (do keyword "extends"; let t ← g.postfixType b; notAhead (symbol "?"); return t)
  else if w == "new" || w == "abstract" then g.constructorType b
  else if w == "import" then g.importType
  else (do symbol "?"; g.postfixType b) <|> g.postfixType b
where
  isFunction : Reader Bool := do
    blanks
    match ← peek? with
    | some '(' => return (← afterGroup) == "=>"
    | some '<' => return true
    | _ => return false

def anyType (b : Boundary) : Reader Tree := do
  let _ ← many (symbol "|" <|> symbol "&")
  let first ← g.unaryType b
  let rest ← many do
    guard !(← b.stops)
    let op ← operatorAhead
    guard (op == "|" || op == "&")
    let _ ← many1 (symbol "|" <|> symbol "&")
    g.unaryType b
  let condition ← optionally do
    guard !(← b.stops)
    keyword "extends"
    let bound ← g.type .enclosed
    symbol "?"
    let yes ← g.type .enclosed
    symbol ":"
    return .group [bound, yes, ← g.type b]
  return .group (first :: rest ++ [condition])

end Grammar

end Interlink.Braced
