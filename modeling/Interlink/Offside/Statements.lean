import Interlink.Offside.Expressions

/-!
# Statements

A block is what follows a colon: statements on the same line, or lines that are indented further. A line
that is indented less than a block ends it; a line that is indented further belongs to it.
-/

namespace Interlink.Offside

open Syntax Syntax.Reader

abbrev Nested := Nat → Reader (List Statement)

section
variable (inner : Inner) (nested : Nested)

/-! ## Simple statements -/

def dottedName (p : Place) : Reader String := do
  p.gap
  let (_, s) ← withText do
    let _ ← bareWord
    let _ ← many (do symbol p "."; wordAfter p)
  return String.ofList s

def renamed (p : Place) : Reader String := do
  let name ← dottedName p
  let _ ← option? (do keyword p "as"; wordAfter p)
  return name

def importList (p : Place) : Reader (List String) :=
  (do symbol p "("
      let (names, _) ← listed p.inside (renamed p.inside)
      symbol p.inside ")"
      return names) <|> (do return (← listed p (renamed p)).1)

def importStatement (p : Place) (line : Nat) : Reader Statement := do
  keyword p "import"
  return .importing line (← listed p (renamed p)).1

/-- The module after `from`, as written; `none` for the features of the language itself. -/
def importedModule (p : Place) : Reader (Option String) := do
  p.gap
  let (_, s) ← withText (
    (do let _ ← many1 (do p.gap; exactly '.')
        let _ ← option? (do
          let w ← ahead (keyword p "import")
          guard !w
          dottedName p)) <|>
    (do let _ ← dottedName p))
  let module := String.ofList s
  return if module == "__future__" then none else some module

def importFromStatement (p : Place) (line : Nat) : Reader Statement := do
  keyword p "from"
  let module? ← importedModule p
  p.gap
  keyword p "import"
  p.gap
  let names ← (do symbol p "*"; guard module?.isSome; return ["*"]) <|> importList p
  match module? with
  | some module => return .importingFrom line module names
  | none => return .group []

def expressions (p : Place) : Reader Expr := do return sequence (← listed p (inner p))

def rightSide (p : Place) : Nat → Reader Right
  | 0 => failure
  | n + 1 => fun c => run (rightSide p n) c
where
  /-- Where `right` reads what an assignment on the right assigns. -/
  run (right : Reader Right) : Reader Right := do
    p.gap
    let line ← Reader.line
    (do let t ← targets inner p
        return .assignment line t (← annotated right)) <|>
    (do let _ ← targets inner p
        augmentation
        match ← right with
        | .value e => return .value (.compound [e])
        | _ => return .value (.compound [])) <|>
    (do return .value (← yielded inner p)) <|>
    (do return .value (← expressions inner p))
  annotated (right : Reader Right) : Reader Right :=
    (do symbol p "="; right) <|>
    (do symbol p ":"
        (do symbol p "*" <|> symbol p "**"; let _ ← word p) <|> (do let _ ← inner p)
        (do symbol p "="; right) <|> pure .absent)
  augmentation : Reader Unit := do
    guard (["+=", "-=", "*=", "/=", "@=", "//=", "%=", "**=", ">>=", "<<=", "&=", "^=", "|="].contains (← sign p))

def assignmentStatement (p : Place) (line : Nat) : Reader Statement := do
  let t ← targets inner p
  let n := (← get).size
  (do return .assignment line t (← rightSide.annotated inner p (rightSide inner p n))) <|>
  (do rightSide.augmentation p
      return .augmented t (← rightSide inner p n))

def printing (p : Place) (line : Nat) : Reader Statement := do
  let _ := line
  keyword p "print"
  (do symbol p ">>"
      let _ ← inner p
      let _ ← many (do symbol p ","; inner p)
      let _ ← option? (symbol p ",")) <|>
    (do let _ ← listed p (inner p))
  return .group []

def executing (p : Place) : Reader Statement := do
  keyword p "exec"
  (do let _ ← stringLiteral inner p) <|> (do let _ ← word p)
  let _ ← option? (do keyword p "in"; sepBy1 (inner p) (symbol p ","))
  return .group []

def typeTerm (p : Place) : Reader Unit :=
  (do symbol p "**" <|> symbol p "*"; let _ ← word p) <|> (do let _ ← inner p)

def typeAlias (p : Place) : Reader Statement := do
  keyword p "type"
  typeTerm inner p
  symbol p "="
  typeTerm inner p
  return .group []

def expressionStatement (p : Place) (line : Nat) : Reader Statement :=
  (do let s ← assignmentStatement inner p line; require (ahead ending); return s) <|>
  (do let _ ← yielded inner p; require (ahead ending); return .group []) <|>
  (do let _ ← expressions inner p; require (ahead ending); return .group [])
where
  ending : Reader Unit := lineEnd <|> symbol p ";"

def simpleStatement (p : Place) : Reader Statement := do
  p.blanks
  let line ← Reader.line
  let w ← ahead? bareWord
  let plain (items : Reader Unit) : Reader Statement := do keyword p w; items; return .group []
  let some1 : Reader Unit := do let _ ← sepBy1 (inner p) (symbol p ",")
  let names : Reader Unit := do let _ ← sepBy1 (wordAfter p) (symbol p ",")
  match w with
  | "import" => importStatement p line
  | "from" => importFromStatement p line
  | "assert" => plain some1
  | "return" => plain (do let _ ← option? (expressions inner p))
  | "del" => plain (do let _ ← expressions inner p)
  | "raise" => plain do
      let _ ← option? (do notAhead (keyword p "from"); expressions inner p)
      let _ ← option? (do keyword p "from"; inner p)
  | "pass" => plain (pure ())
  | "break" => plain (pure ())
  | "continue" => plain (pure ())
  | "global" => plain names
  | "nonlocal" => plain names
  | "print" => expressionStatement inner p line <|> printing inner p line
  | "exec" => expressionStatement inner p line <|> executing inner p
  | "type" => typeAlias inner p <|> expressionStatement inner p line
  | _ => expressionStatement inner p line
where
  ahead? (r : Reader String) : Reader String := fun c =>
    match r c with
    | some (w, _) => some (w, c)
    | none => some ("", c)

def simpleLine (indent : Nat) : Reader (List Statement) := do
  let p : Place := ⟨indent, false⟩
  let ss ← sepBy1 (simpleStatement inner p) (symbol p ";")
  let _ ← option? (symbol p ";")
  lineEnd
  return ss

/-! ## Blocks -/

def block (indent : Nat) : Reader (List Statement) := do
  match ← indentAhead with
  | some deeper =>
    if indent < deeper then nested deeper else pure []
  | none => simpleLine inner indent

def suite (p : Place) : Reader (List Statement) := do
  symbol p ":"
  block inner nested p.indent

/-- A clause that goes on a compound statement; it stands in the same block. -/
def clause {α : Type} (indent : Nat) (r : Reader α) : Reader α := do
  guard !(← blockEnds indent)
  anyBlanks
  r

/-! ## Compound statements -/

def elseClause (p : Place) : Reader (List Statement) :=
  clause p.indent do keyword p "else"; suite inner nested p

def maybe (r : Reader (List Statement)) : Reader (List Statement) := r <|> pure []

def ifStatement (p : Place) : Reader Statement := do
  keyword p "if"
  p.gap
  let (_, condition) ← withText (inner p)
  let body ← suite inner nested p
  let others ← many (clause p.indent do
    keyword p "elif"
    let _ ← inner p
    return .group (← suite inner nested p))
  let last ← option? (elseClause inner nested p)
  return .conditional (String.ofList condition) body (others ++ last.toList.map .group)

def forStatement (p : Place) : Reader Statement := do
  let _ ← option? (keyword p "async")
  keyword p "for"
  let _ ← targets inner p
  keyword p "in"
  let _ ← expressions inner p
  let body ← suite inner nested p
  return .group (body ++ (← maybe (elseClause inner nested p)))

def whileStatement (p : Place) : Reader Statement := do
  keyword p "while"
  let _ ← inner p
  let body ← suite inner nested p
  return .group (body ++ (← maybe (elseClause inner nested p)))

def exceptClause (p : Place) : Reader (List Statement) :=
  clause p.indent do
    keyword p "except"
    let _ ← option? (exactly '*')
    let _ ← option? (do
      let _ ← inner p
      option? (do symbol p ","; inner p))
    suite inner nested p

def tryStatement (p : Place) : Reader Statement := do
  keyword p "try"
  let body ← suite inner nested p
  let finally? : Reader (List Statement) := clause p.indent do keyword p "finally"; suite inner nested p
  (do let handlers ← many1 (exceptClause inner nested p)
      let no ← maybe (elseClause inner nested p)
      return .group (body ++ handlers.flatten ++ no ++ (← maybe finally?))) <|>
    (do return .group (body ++ (← finally?)))

def withStatement (p : Place) : Reader Statement := do
  let _ ← option? (keyword p "async")
  keyword p "with"
  (do symbol p "("
      let q := p.inside
      let _ ← listed q (anyBlanks *> inner q)
      symbol q ")"
      require (ahead (symbol p ":"))) <|>
    (do let _ ← listed p (inner p))
  return .group (← suite inner nested p)

def typeParameters (p : Place) : Reader Unit := do
  symbol p "["
  let _ ← listed p.inside (sepBy1 (typeTerm inner p.inside) (symbol p.inside ":"))
  symbol p.inside "]"

def functionDefinition (p : Place) (line : Nat) : Reader Statement := do
  let _ ← option? (keyword p "async")
  keyword p "def"
  let name ← wordAfter p
  let _ ← option? (typeParameters inner p)
  symbol p "("
  let q := p.inside
  let _ ← option? (listed q (anyBlanks *> parameter inner q true))
  symbol q ")"
  let _ ← option? (do symbol p "->"; typeTerm inner p)
  return .definition line .function name (← suite inner nested p)

def classDefinition (p : Place) (line : Nat) : Reader Statement := do
  keyword p "class"
  let name ← wordAfter p
  let _ ← option? (typeParameters inner p)
  let _ ← option? (arguments inner (loopTarget inner p.inside) p)
  return .definition line .class name (← suite inner nested p)

def decoratedDefinition (p : Place) : Reader Statement := do
  let _ ← many1 (do
    guard !(← blockEnds p.indent)
    anyBlanks
    symbol p "@"
    let _ ← inner p
    lineEnd)
  guard !(← blockEnds p.indent)
  anyBlanks
  let line ← Reader.line
  return .decorated (← functionDefinition inner nested p line <|> classDefinition inner nested p line)

/-! ### Matching -/

/-- One alternative of a pattern, whose parts are read by `deeper`. -/
def patternItem (deeper : Place → Reader Unit) (p : Place) : Reader Unit := do
  p.gap
  let q := p.inside
  let items (item : Reader Unit) (closes : String) : Reader Unit := do
    let _ ← option? (listed q (anyBlanks *> item))
    symbol q closes
  (do let _ ← stringLiteral inner p
      let _ ← many (stringLiteral inner p)) <|>
  (do let _ ← option? (symbol p "-")
      p.blanks
      number
      let _ ← option? (do symbol p "+" <|> symbol p "-"; p.blanks; number)) <|>
  (do symbol p "["; items (deeper q) "]") <|>
  (do symbol p "("; items (deeper q) ")") <|>
  (do symbol p "**" <|> symbol p "*"; let _ ← word p) <|>
  (do symbol p "\x7b"
      items ((do symbol q "**"; let _ ← word q) <|> (do deeper q; symbol q ":"; deeper q)) "\x7d") <|>
  (do let _ ← dottedName p
      let _ ← option? (do symbol p "("; items (deeper q) ")"))

def casePattern : Nat → Place → Reader Unit
  | 0, _ => failure
  | n + 1, p => fun c => run (casePattern n) p c
where
  run (deeper : Place → Reader Unit) (p : Place) : Reader Unit := do
    let alternatives : Reader Unit := do
      let _ ← sepBy1 (patternItem inner deeper p) (symbol p "|")
    (do let _ ← word p; symbol p "="; alternatives) <|> alternatives
    let _ ← many (do keyword p "as"; wordAfter p)

def caseClause (p : Place) : Reader (List Statement) :=
  clause p.indent do
    keyword p "case"
    let _ ← listed p (do casePattern inner (← get).size p)
    let _ ← option? (do keyword p "if"; inner p)
    suite inner nested p

def matchStatement (p : Place) : Reader Statement := do
  keyword p "match"
  let _ ← listed p (inner p)
  symbol p ":"
  match ← indentAhead with
  | some deeper =>
    if p.indent < deeper then do
      let cases ← many (caseClause inner nested ⟨deeper, false⟩)
      guard (← blockEnds deeper)
      return .group cases.flatten
    else return .group []
  | none => failure

def compoundStatement (p : Place) (w : String) (line : Nat) : Option (Reader Statement) :=
  match w with
  | "if" => some (ifStatement inner nested p)
  | "for" => some (forStatement inner nested p)
  | "while" => some (whileStatement inner nested p)
  | "try" => some (tryStatement inner nested p)
  | "with" => some (withStatement inner nested p)
  | "def" => some (functionDefinition inner nested p line)
  | "class" => some (classDefinition inner nested p line)
  | _ => none

def statement (indent : Nat) : Reader (List Statement) := do
  anyBlanks
  guard !(← get).atEnd
  let p : Place := ⟨indent, false⟩
  let line ← Reader.line
  if (← peek?) == some '@' then return [← decoratedDefinition inner nested p]
  else
    let w ← simpleStatement.ahead? bareWord
    match compoundStatement inner nested p w line with
    | some r => return [← r]
    | none =>
      match w with
      | "match" => (do return [← matchStatement inner nested p]) <|> simpleLine inner indent
      | "async" =>
        (do return [← functionDefinition inner nested p line]) <|> (do return [← forStatement inner nested p]) <|>
          (do return [← withStatement inner nested p]) <|> simpleLine inner indent
      | _ => simpleLine inner indent

end

/-! ## The whole grammar -/

def statements (inner : Inner) : Nat → Nested
  | 0, _ => failure
  | n + 1, indent => fun c => (do
      let ss ← many (do
        guard !(← blockEnds indent)
        statement inner (statements inner n) indent)
      return ss.flatten : Reader (List Statement)) c

def program (depth : Nat) : Reader (List Statement) := do
  let ss ← statements (expression depth) depth 0
  anyBlanks
  return ss

/-- The statements of a file; `none` where the text is not of the language. -/
def parse? (s : List Char) : Option (List Statement) := (program (4 * s.length + 16)).run? s

end Interlink.Offside
