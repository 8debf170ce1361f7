import Interlink.Braced.Patterns

/-!
# Expressions

Operators only separate the operands that a group lists, so the grammar reads them from left to right and
gives them no precedence. An operand that can be assigned to may be followed by an assignment.
-/

namespace Interlink.Braced

open Syntax Syntax.Reader

def binaryOperators : List String :=
  ["&&", "||", ">>", ">>>", "<<", "&", "^", "|", "+", "-", "*", "/", "%", "**", "<", "<=", "==", "===",
   "!=", "!==", ">=", ">", "??"]

def assignmentOperators : List String :=
  ["+=", "-=", "*=", "/=", "%=", "^=", "&=", "|=", ">>=", ">>>=", "<<=", "**=", "&&=", "||=", "??="]

/-- Words that can follow an operand, so that type arguments before them end it. -/
def operandFollowers : List String :=
  ["in", "instanceof", "as", "satisfies", "implements", "extends", "of"]

inductive Use where
  | value
  | assignable
  /-- A call or an update, which only reads. -/
  | result
deriving DecidableEq

namespace Grammar
variable (g : Grammar)

/-! ## Functions and classes -/

def block : Reader Tree := g.read .block

/-- The name of a class; the words that open its heritage are none. -/
def className : Reader String := wordExcept ["extends", "implements"]

/-- Whether the brace ahead can open an object where a block is read first. -/
def objectAhead : Reader Bool :=
  ahead do
    symbol "\x7b"
    symbol "..." <|> (do let _ ← propertyKey g; symbol ":" <|> symbol ",")

def arrowBody (b : Boundary) : Reader Tree := do
  blanks
  if (← peek?) == some '\x7b' then g.block <|> (do require g.objectAhead; g.expression b)
  else g.expression b

def arrow (b : Boundary) (annotated : Bool) : Reader Tree := do
  let _ ← option? do
    keyword "async"
    require (ahead (do let _ ← word)) <|> require (ahead (symbol "(" <|> symbol "<"))
  let head ←
    (do let w ← wordExcept (expressionKeywords.erase "undefined")
        require ((· == "=>") <$> operatorAhead)
        return .identifier w) <|>
    (do let ts ← optionally g.typeParameters
        let ps ← g.parameters
        let r ← if annotated then optionally (g.resultAnnotation .enclosed) else pure (.group [])
        return .group [ts, ps, r])
  require ((· == "=>") <$> operatorAhead)
  symbol "=>"
  return .closure .arrow none [head, ← g.arrowBody b]

def functionExpression : Reader Tree := do
  let _ ← option? (keyword "async")
  keyword "function"
  let star ← option? (symbol "*")
  let name ← option? word
  let s ← g.signature .enclosed
  let named := name.toList.map Tree.identifier
  return .closure (if star.isSome then .generator else .function) name (named ++ [s, ← g.block])

def heritage : Reader Tree := do
  let parents ← optionally do
    keyword "extends"
    return .group (← sepBy1 (do
      let e ← g.expression .enclosed
      return .group [e, ← optionally g.typeArguments]) (symbol ","))
  let contracts ← optionally do
    keyword "implements"
    return .group (← sepBy1 (g.type .enclosed) (symbol ","))
  return .group [parents, contracts]

def methodName : Reader Tree := do
  let key ← propertyKey g
  let _ ← option? (symbol "?" <|> symbol "!")
  return key

def initializer (b : Boundary) : Reader Tree := do
  symbol "="
  g.expression b

def classMember : Reader Tree :=
  (do symbol ";"; return .group []) <|>
  (do keyword "static"; g.block) <|>
  (do let decorators ← many g.decorator
      let body ← method <|> field
      return .group (decorators ++ [body]))
where
  method : Reader Tree := do
    let _ ← many modifier
    let _ ← option? (symbol "*")
    let key ← methodName g
    let s ← g.signature .line
    let body ← (do let b ← g.block; let _ ← option? (symbol ";"); return b) <|>
      (do symbol "," <|> signatureEnd; return .group [])
    return .group [key, s, body]
  field : Reader Tree := do
    let t ← (do let _ ← option? (keyword "static"); g.indexSignature) <|> do
      let _ ← many modifier
      let key ← methodName g
      let a ← optionally (g.annotation .line)
      let v ← optionally (do guard !(← Boundary.line.stops); g.initializer .operand)
      return .group [key, a, v]
    symbol "," <|> semicolon .operand
    return t

def classBody : Reader Tree := do
  symbol "\x7b"
  let members ← many g.classMember
  symbol "\x7d"
  return .group members

def classExpression : Reader Tree := do
  let decorators ← many g.decorator
  keyword "class"
  let name ← option? className
  let ts ← optionally g.typeParameters
  let h ← g.heritage
  return .closure .class name (decorators ++ [ts, h, ← g.classBody])

/-! ## Literals -/

def objectPart : Reader Tree :=
  (do symbol "..."; g.expression .enclosed) <|>
  (do let _ ← many modifier
      let _ ← option? (symbol "*")
      let key ← methodName g
      let s ← g.signature .enclosed
      return .group [key, s, ← g.block]) <|>
  (do let key ← propertyKey g
      symbol ":"
      return .group [key, ← g.expression .enclosed]) <|>
  (do let _ ← word; return .group [])

def object : Reader Tree := do
  symbol "\x7b"
  let parts ← loose g.objectPart
  symbol "\x7d"
  return .group parts

def array : Reader Tree := do
  symbol "["
  let parts ← loose ((do symbol "..."; g.expression .enclosed) <|> g.expression .enclosed)
  symbol "]"
  return .group parts

def template : Reader Tree := do
  symbol "\x60"
  let parts ← many (
    (do templateText; return .group []) <|>
    (do escape; return .group []) <|>
    (do exactly '$'; exactly '\x7b'; let e ← g.expressions .enclosed; symbol "\x7d"; return e))
  exactly '\x60'
  return .group parts

def parenthesized : Reader Tree := do
  symbol "("
  let e ← g.expressions .enclosed
  let t ← optionally (g.annotation .enclosed)
  symbol ")"
  return .group [e, t]

/-! ## Operands -/

def construction : Reader Tree := do
  keyword "new"
  (do symbol "."; keyword "target"; return .group []) <|> do
    let subject ← (do require ((· == "new") <$> wordAhead); g.read .target) <|> head
    let members ← many member
    let types ← optionally (do let t ← g.typeArguments; require (ahead (symbol "(")); return t)
    let args ← (g.arguments <|> pure [])
    return .group (subject :: members ++ types :: args)
where
  head : Reader Tree :=
    g.parenthesized <|> (do keyword "this"; return .group []) <|> g.functionExpression <|> g.classExpression <|>
    (do keyword "import"; symbol "."; let _ ← word; return .group []) <|>
    (do return .identifier (← wordExcept expressionKeywords))
  member : Reader Tree :=
    (do symbol "." <|> symbol "?."
        (do let _ ← word) <|> privateName
        return .group []) <|>
    (do symbol "["; let e ← g.expressions .enclosed; symbol "]"; return e) <|>
    (do symbol "!"; notAhead (exactly '='); return .group []) <|> g.template

def primary (b : Boundary) (annotated : Bool) : Reader (Tree × Use) := do
  blanks
  match ← peek? with
  | some '(' => do
    let next ← afterGroup
    (do guard (next == "=>" || (annotated && next == ":"))
        return (← g.arrow b annotated, .value)) <|> (do return (← g.parenthesized, .assignable))
  | some '[' => do
    let next ← afterGroup
    (do guard (next == "="); return (← g.arrayPattern, .assignable)) <|> (do return (← g.array, .value))
  | some '\x7b' => do
    let next ← afterGroup
    (do guard (next == "="); return (← g.objectPattern, .assignable)) <|> (do return (← g.object, .value))
  | some '\x60' => do return (← g.template, .value)
  | some '\x22' | some '\x27' => do return (.string (← stringLiteral), .value)
  | some '/' => do regularExpression; return (.group [], .value)
  | some '<' => do
    (do return (← g.arrow b annotated, .value)) <|> (do
      guard g.markup
      return (← g.read .element, .value))
  | some '@' => do return (← g.classExpression, .value)
  | some '#' => do
    privateName
    require (ahead (keyword "in"))
    return (.group [], .value)
  | some x =>
    if x.isDigit || x = '.' then do number; return (.group [], .value)
    else do
      let w ← wordAhead
      match w with
      | "function" => return (← g.functionExpression, .value)
      | "class" => return (← g.classExpression, .value)
      | "new" => return (← g.construction, .value)
      | "import" => do
        keyword "import"
        (do require (ahead (symbol "(")); return (.importer, .value)) <|>
          (do require (ahead (symbol ".")); return (.group [], .value))
      | "this" => do keyword w; return (.group [], .value)
      | "super" => do keyword w; return (.group [], .value)
      | "true" => do keyword w; return (.group [], .value)
      | "false" => do keyword w; return (.group [], .value)
      | "null" => do keyword w; return (.group [], .value)
      | "undefined" => do keyword w; return (.group [], .assignable)
      | "async" =>
        (do return (← g.functionExpression, .value)) <|> (do return (← g.arrow b annotated, .value)) <|>
          (do keyword w; return (.identifier w, .assignable))
      | _ =>
        (do return (← g.arrow b annotated, .value)) <|>
          (do return (.identifier (← wordExcept expressionKeywords), .assignable))
  | none => failure

/-- What can follow an operand and extends it. `l` is the line on which the operand starts. -/
def extension (b : Boundary) (l : Nat) (t : Tree) : Reader (Tree × Use) := do
  guard !(← b.stops)
  blanks
  match ← peek? with
  | some '.' => do
    symbol "."
    (do let _ ← word) <|> privateName
    return (.group [t], .assignable)
  | some '?' => do
    let op ← operator
    guard (op == "?.")
    (do let types ← optionally g.typeArguments
        return (.call l t [types] (← g.arguments), .result)) <|>
    (do symbol "["; let e ← g.expressions .enclosed; symbol "]"; return (.group [t, e], .assignable)) <|>
    (do (do let _ ← word) <|> privateName
        return (.group [t], .assignable))
  | some '[' => do
    symbol "["
    let e ← g.expressions .enclosed
    symbol "]"
    return (.group [t, e], .assignable)
  | some '(' => do return (.call l t [] (← g.arguments), .result)
  | some '\x60' => do return (.call l t [] [← g.template], .result)
  | some '!' => do
    let op ← operator
    guard (op == "!")
    return (.group [t], .assignable)
  | some '+' => do
    let op ← operator
    guard (op == "++")
    return (.group [t], .result)
  | some '-' => do
    let op ← operator
    guard (op == "--")
    return (.group [t], .result)
  | some '<' => do
    let types ← g.typeArguments
    (do return (.call l t [types] (← g.arguments), .result)) <|> do
      blanks
      let next ← peek?
      let w ← wordAhead
      guard (w == "" || operandFollowers.contains w)
      guard !(next == some '\x22' || next == some '\x27' || (next.map Char.isDigit).getD false)
      return (.group [t, types], .result)
  | _ => failure

/-- An operand with all that extends it; `n` bounds the number of extensions. -/
def extended (b : Boundary) (l : Nat) : Nat → Tree × Use → Reader (Tree × Use)
  | 0, t => pure t
  | n + 1, t => (do let t' ← g.extension b l t.1; extended b l n t') <|> pure t

def chain (b : Boundary) (annotated : Bool) : Reader (Tree × Use) :=
  located fun l => do
    let t ← g.primary b annotated
    g.extended b l ((← get).size + 1) t

def assignmentTarget : Reader Tree :=
  g.destructuring <|> do
    let (t, u) ← g.chain .enclosed false
    guard (u = .assignable)
    return t

def operandWith (again : Reader Tree) (b : Boundary) (annotated : Bool) : Reader Tree := do
  let w ← wordAhead
  let op ← operatorAhead
  if w == "typeof" || w == "void" || w == "delete" || w == "await" then do keyword w; return .group [← again]
  else if w == "using" then do
    keyword w
    let t ← g.read .target
    symbol "="
    return .group [t, ← g.read (.expression b annotated)]
  else if w == "yield" then do
    keyword w
    (do symbol "*"; return .group [← g.read (.expression b annotated)]) <|>
    (do guard !(← b.stops); return .group [← g.read (.expression b annotated)]) <|> pure (.group [])
  else if op == "!" || op == "~" || op == "-" || op == "+" || op == "++" || op == "--" then do
    symbol op
    return .group [← again]
  else if op.startsWith "<" && !g.markup then
    (g.arrow b annotated) <|> (do let t ← g.typeArguments; return .group [t, ← again])
  else do
    let (t, u) ← g.chain b annotated
    let next ← operatorAhead
    if u = .assignable && (next == "=" || assignmentOperators.contains next) then do
      symbol next
      return .group [t, ← g.read (.expression b annotated)]
    else return t

def operand (b : Boundary) (annotated : Bool) : Nat → Reader Tree
  | 0 => failure
  | n + 1 => fun c => g.operandWith (operand b annotated n) b annotated c

def operation (b : Boundary) (annotated : Bool) : Reader Tree := do
  guard !(← b.stops)
  let w ← wordAhead
  if w == "in" || w == "instanceof" then do
    keyword w
    g.operand b annotated (← get).size
  else if w == "as" || w == "satisfies" then do
    keyword w
    g.type b
  else do
    let op ← operator
    guard (binaryOperators.contains op)
    g.operand b annotated (← get).size

def choiceMark : Reader Unit := do
  blanks
  exactly '?'
  let c ← get
  let here := c.rest
  guard (here.head? ≠ some '?')
  match here.dropWhile isSpace with
  | '.' :: rest => guard ((rest.headD ' ').isDigit)
  | ':' :: _ => failure
  | ')' :: _ => failure
  | ',' :: _ => failure
  | _ => pure ()

def anyExpression (b : Boundary) (annotated : Bool) : Reader Tree := do
  let first ← g.operand b annotated ((← get).size + 1)
  let rest ← many (g.operation b annotated)
  let value : Tree := if rest.isEmpty then first else .group (first :: rest)
  let chosen ← option? do
    guard !(← b.stops)
    choiceMark
    (choice true) <|> (choice false)
  match chosen with
  | some t => return .group [value, t]
  | none => return value
where
  choice (annotatedConsequence : Bool) : Reader Tree := do
    let yes ← g.read (.expression .enclosed annotatedConsequence)
    symbol ":"
    return .group [yes, ← g.read (.expression b annotated)]

end Grammar

end Interlink.Braced
