import Interlink.Braced.Markup

/-!
# Statements

Imports and exports keep what they name; a declaration keeps its name; other statements are groups.
-/

namespace Interlink.Braced

open Syntax Syntax.Reader

namespace Grammar
variable (g : Grammar)

/-! ## Imports and exports -/

def listName : Reader String := word <|> stringLiteral

def alias? : Reader (Option String) := option? (do keyword "as"; listName)

def braced {α : Type} (p : Reader α) : Reader (List α) := do
  symbol "\x7b"
  let items ← (sepBy1 p (symbol ",")) <|> pure []
  let _ ← option? (symbol ",")
  symbol "\x7d"
  return items

def typeMark : Reader Bool := do
  let w ← word
  guard (w == "type" || w == "typeof")
  return w == "type"

/-- A name to import. The word `type` is a name itself where `as` or nothing follows it. -/
def importSpecifier : Reader Specifier :=
  located fun l =>
    (do let typeOnly ← typeMark
        notAhead (keyword "as")
        let name ← listName
        return ⟨name, ← alias?, typeOnly, l⟩) <|>
    (do let name ← listName
        return ⟨name, ← alias?, false, l⟩)

def exportSpecifier : Reader Specifier :=
  located fun l => do
    let mark ← option? typeMark
    let name ← listName
    return ⟨name, ← alias?, mark = some true, l⟩

def importClause : Reader ImportClause :=
  let whole : Reader ImportClause := do
    symbol "*"
    keyword "as"
    let _ ← word
    return ⟨false, true, []⟩
  let named : Reader ImportClause := do return ⟨false, false, ← braced importSpecifier⟩
  whole <|> named <|> do
    let _ ← word
    match ← option? (do symbol ","; whole <|> named) with
    | some c => return { c with default := true }
    | none => return ⟨true, false, []⟩

def fromSource : Reader String := do keyword "from"; stringLiteral

def requireClause : Reader String := do
  let _ ← word
  symbol "="
  keyword "require"
  symbol "("
  let s ← stringLiteral
  symbol ")"
  return s

def importStatement : Reader Tree :=
  located fun l => do
    keyword "import"
    let body : Reader (Option ImportClause × String) :=
      (do let c ← importClause; return (some c, ← fromSource)) <|>
      (do return (none, ← requireClause)) <|>
      (do return (none, ← stringLiteral))
    let plain : Reader Tree := do
      let (c, s) ← body
      return .importing l false c s
    let marked : Reader Tree := do
      let typeOnly ← typeMark
      let (c, s) ← body
      return .importing l typeOnly c s
    let t ← plain <|> marked
    let _ ← option? (do keyword "with"; g.object)
    semicolon .line
    return t

def importAlias : Reader Tree := do
  keyword "import"
  let name ← word
  symbol "="
  let _ ← sepBy1 word (symbol ".")
  semicolon .line
  return .group [.identifier name]

def reexport (l : Nat) : Reader Tree := do
  let t ←
    (do symbol "*"
        let c ← located fun _ => do
          match ← option? (do keyword "as"; listName) with
          | some name => return ExportClause.wholeAs name l
          | none => return .whole
        return Tree.reexport l false c (some (← fromSource))) <|>
    (do let specifiers ← braced exportSpecifier
        return .reexport l false (.named specifiers) (← option? fromSource)) <|>
    (do keyword "type"
        let specifiers ← braced exportSpecifier
        return .reexport l true (.named specifiers) (← option? fromSource))
  semicolon .line
  return t

/-! ## Declarations -/

def functionDeclaration : Reader Tree :=
  located fun l => do
    let _ ← option? (keyword "async")
    keyword "function"
    let star ← option? (symbol "*")
    let name ← word
    let s ← g.signature .line
    let body ← g.block <|> (do guard star.isNone; signatureEnd; return .group [])
    return .declaration l .function name [.identifier name, s, body]

def classDeclaration : Reader Tree :=
  located fun l => do
    let decorators ← many g.decorator
    let _ ← option? (keyword "abstract")
    keyword "class"
    let name ← className
    let ts ← optionally g.typeParameters
    let h ← g.heritage
    return .declaration l .class name (decorators ++ [ts, h, ← g.classBody])

def interfaceDeclaration : Reader Tree :=
  located fun l => do
    keyword "interface"
    let name ← word
    let ts ← optionally g.typeParameters
    let parents ← optionally do
      keyword "extends"
      return .group (← sepBy1 g.namedType (symbol ","))
    return .declaration l .type name [ts, parents, ← g.objectType]

def typeDeclaration : Reader Tree :=
  located fun l => do
    keyword "type"
    let name ← word
    let ts ← optionally g.typeParameters
    symbol "="
    let t ← g.type .line
    semicolon .line
    return .declaration l .type name [ts, t]

def enumDeclaration : Reader Tree :=
  located fun l => do
    let _ ← option? (keyword "const")
    keyword "enum"
    let name ← word
    let member : Reader Tree := do
      let key ← propertyKey g
      return .group [key, ← optionally (g.initializer .enclosed)]
    return .declaration l .type name (.identifier name :: (← braced member))

/-- A module or namespace; its name may have dots or be a string. -/
def moduleDeclaration : Reader Tree :=
  located fun l => do
    keyword "namespace" <|> keyword "module"
    blanks
    let (_, raw) ← withText ((do let _ ← stringLiteral) <|> do
      let _ ← sepBy1 word (symbol "."))
    let body ← optionally g.block
    return .declaration l .value (String.ofList raw) [body]

def declarator : Reader Tree :=
  located fun l => do
    let pattern ← g.binding
    let sure ← option? (do symbol "!"; require (ahead (symbol ":")))
    let annotation ← optionally (g.annotation .line)
    let value? ← option? (do guard sure.isNone; g.initializer .operand)
    return .declarator l pattern annotation value?

def variableList (words : List String) : Reader Tree := do
  let w ← word
  guard (words.contains w)
  let ds ← sepBy1 g.declarator (symbol ",")
  semicolon .operand
  return .variables ds

def ambientDeclaration (declaration : Reader Tree) : Reader Tree := do
  keyword "declare"
  (do return .ambient (← declaration)) <|>
  (do keyword "global"; return .group [← g.block]) <|>
  (do keyword "module"
      symbol "."
      let _ ← word
      let t ← g.annotation .line
      semicolon .line
      return .group [t])

def plainDeclaration : Reader Tree := do
  blanks
  if (← peek?) == some '@' then g.classDeclaration
  else match ← wordAhead with
    | "function" => g.functionDeclaration
    | "async" => g.functionDeclaration
    | "class" => g.classDeclaration
    | "abstract" => g.classDeclaration
    | "interface" => g.interfaceDeclaration
    | "type" => g.typeDeclaration
    | "enum" => g.enumDeclaration
    | "namespace" => g.moduleDeclaration
    | "module" => g.moduleDeclaration
    | "const" => g.enumDeclaration <|> g.variableList ["const"]
    | "let" => g.variableList ["let"]
    | "var" => g.variableList ["var"]
    | "import" => importAlias
    | _ => failure

def declaration : Reader Tree := g.plainDeclaration <|> g.ambientDeclaration g.plainDeclaration

def exportStatement : Reader Tree :=
  located fun l => do
    let decorators ← many g.decorator
    keyword "export"
    let list : Reader Tree := do guard decorators.isEmpty; reexport l
    let default : Reader Tree := do
      keyword "default"
      (do return .exportDeclaration true decorators (← g.declaration)) <|>
        (do let value ← g.expression .operand
            semicolon .operand
            return .exportValue l decorators value)
    let assigned : Reader Tree := do
      symbol "="
      let e ← g.expression .operand
      semicolon .operand
      return .group [e]
    let global : Reader Tree := do
      keyword "as"
      keyword "namespace"
      let _ ← word
      semicolon .line
      return .group []
    list <|> default <|> (do return .exportDeclaration false decorators (← g.declaration)) <|> assigned <|> global

/-! ## Control flow -/

def condition : Reader Tree := g.parenthesized

def nested : Reader Tree := g.read .statement

def ifStatement : Reader Tree := do
  keyword "if"
  let c ← g.condition
  let yes ← g.nested
  let no ← optionally (keyword "else" *> g.nested)
  return .group [c, yes, no]

def loopBinding : Reader Tree :=
  (do let w ← word
      guard (["var", "let", "const"].contains w)
      let p ← g.binding
      let v ← optionally (do guard (w == "var"); g.initializer .enclosed)
      require (ahead (keyword "in" <|> keyword "of"))
      return .group [p, v]) <|>
  (do let t ← g.read .target
      require (ahead (keyword "in" <|> keyword "of"))
      return t)

def forStatement : Reader Tree := do
  keyword "for"
  let _ ← option? (keyword "await")
  symbol "("
  let header ←
    (do let p ← g.loopBinding
        keyword "in" <|> keyword "of"
        return .group [p, ← g.expressions .enclosed]) <|>
    (do let first ← (do symbol ";"; return .group []) <|> g.variableList ["var", "let", "const"] <|>
          (do let e ← g.expressions .enclosed; symbol ";"; return e)
        let test ← (do symbol ";"; return .group []) <|> (do let e ← g.expressions .enclosed; symbol ";"; return e)
        return .group [first, test, ← optionally (g.expressions .enclosed)])
  symbol ")"
  return .group [header, ← g.nested]

def whileStatement : Reader Tree := do
  keyword "while"
  let c ← g.condition
  return .group [c, ← g.nested]

def doStatement : Reader Tree := do
  keyword "do"
  let body ← g.nested
  keyword "while"
  let c ← g.condition
  let _ ← option? (semicolon .line)
  return .group [body, c]

def switchStatement : Reader Tree := do
  keyword "switch"
  let subject ← g.condition
  symbol "\x7b"
  let cases ← many do
    let guard? ← (do keyword "case"; g.expressions .enclosed) <|> (do keyword "default"; return .group [])
    symbol ":"
    let body ← many (do
      notAhead (do keyword "case" <|> keyword "default")
      g.nested)
    return .group (guard? :: body)
  symbol "\x7d"
  return .group (subject :: cases)

def tryStatement : Reader Tree := do
  keyword "try"
  let body ← g.block
  let handler ← optionally do
    keyword "catch"
    let parameter ← optionally do
      symbol "("
      let p ← g.binding
      let a ← optionally (g.annotation .enclosed)
      symbol ")"
      return .group [p, a]
    return .group [parameter, ← g.block]
  let finalizer ← optionally (keyword "finally" *> g.block)
  return .group [body, handler, finalizer]

def jump : Reader Tree := do
  keyword "break" <|> keyword "continue"
  let _ ← option? (do guard !(← Boundary.line.stops); word)
  semicolon .line
  return .group []

def returnStatement : Reader Tree := do
  keyword "return"
  let e ← optionally (do guard !(← Boundary.line.stops); g.expressions .operand)
  semicolon (if e matches .group [] then .line else .operand)
  return e

def throwStatement : Reader Tree := do
  keyword "throw"
  let e ← g.expressions .operand
  semicolon .operand
  return e

def expressionStatement : Reader Tree := do
  let e ← g.expressions .operand
  semicolon .operand
  return e

def labelled : Reader Tree := do
  let _ ← wordExcept expressionKeywords
  symbol ":"
  g.nested

def anyBlock : Reader Tree := do
  symbol "\x7b"
  let body ← many g.nested
  symbol "\x7d"
  return .group body

def opened : String → Option (Reader Tree)
  | "import" => some (importStatement g <|> importAlias <|> g.expressionStatement)
  | "export" => some g.exportStatement
  | "debugger" => some (do keyword "debugger"; semicolon .line; return .group [])
  | "var" => some (g.variableList ["var"])
  | "const" => some g.declaration
  | "if" => some g.ifStatement
  | "switch" => some g.switchStatement
  | "for" => some g.forStatement
  | "while" => some g.whileStatement
  | "do" => some g.doStatement
  | "try" => some g.tryStatement
  | "with" => some (do keyword "with"; let c ← g.condition; return .group [c, ← g.nested])
  | "break" => some jump
  | "continue" => some jump
  | "return" => some g.returnStatement
  | "throw" => some g.throwStatement
  | "abstract" => some g.declaration
  | "interface" => some g.declaration
  | "enum" => some g.declaration
  | _ => none

def declarationWords : List String :=
  ["function", "async", "class", "type", "namespace", "module", "let", "declare"]

def anyStatement : Reader Tree := do
  blanks
  match ← peek? with
  | some ';' => do symbol ";"; return .group []
  | some '\x7b' => g.block <|> (do require g.objectAhead; g.expressionStatement)
  | some '@' => g.exportStatement <|> g.declaration <|> g.expressionStatement
  | _ => do
    let w ← wordAhead
    match g.opened w with
    | some p => p
    | none =>
      if declarationWords.contains w then g.declaration <|> labelled g <|> g.expressionStatement
      else (do guard (w != ""); labelled g) <|> g.expressionStatement

end Grammar

/-! ## The whole grammar -/

def grammar (markup : Bool) : Nat → Goal → Reader Tree
  | 0, _ => failure
  | n + 1, goal => fun c =>
    let g : Grammar := ⟨markup, grammar markup n⟩
    let p : Reader Tree := match goal with
      | .expression b annotated => g.anyExpression b annotated
      | .target => g.assignmentTarget
      | .pattern => g.anyPattern
      | .type b => g.anyType b
      | .statement => g.anyStatement
      | .block => g.anyBlock
      | .element => g.anyElement
    p c

def interpreterLine : Reader Unit := do
  text "#!"
  let _ ← takeWhile (· ≠ '\n')

def program (markup : Bool) (depth : Nat) : Reader (List Tree) := do
  let _ ← option? interpreterLine
  let statements ← many (grammar markup depth .statement)
  blanks
  return statements

/-- The statements of a file; `none` where the text is not of the language. -/
def parse? (markup : Bool) (s : List Char) : Option (List Tree) :=
  (program markup (4 * s.length + 16)).run? s

end Interlink.Braced
