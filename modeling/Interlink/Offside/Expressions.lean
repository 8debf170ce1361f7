import Interlink.Offside.Token
import Interlink.Offside.Tree

/-!
# Expressions

Operators bind as the language has them, so that the direct parts of an expression are its own.
-/

namespace Interlink.Offside

open Syntax Syntax.Reader

abbrev Inner := Place → Reader Expr

def leftNested (first : Expr) (rest : List Expr) : Expr := rest.foldl (fun l r => .compound [l, r]) first

/-- A single expression stands for itself, and several for a sequence. -/
def sequence : List Expr × Bool → Expr
  | ([e], false) => e
  | (es, _) => .compound es

section
variable (inner : Inner)

/-! ## Strings -/

/-- `{ … }` in a string: an expression with a conversion and a format, which may hold others. -/
def substitution : Nat → Reader Unit
  | 0 => failure
  | n + 1 => fun c => run (substitution n) c
where
  run (deeper : Reader Unit) : Reader Unit := do
    let p : Place := ⟨0, true⟩
    exactly '\x7b'
    let _ ← option? (do keyword p "yield"; option? (keyword p "from"))
    let _ ← option? (listed p (inner p))
    let _ ← option? (symbol p "=")
    let _ ← option? (do
      p.blanks
      exactly '!'
      let _ ← char Char.isLower)
    let _ ← option? (do
      p.blanks
      exactly ':'
      let _ ← many ((do let _ ← many1 (char fun c => c ≠ '\x7b' && c ≠ '\x7d' && c ≠ '\n')) <|> deeper))
    p.blanks
    exactly '\x7d'

def stringLiteral (p : Place) : Reader Expr := do
  p.blanks
  let c ← get
  let (_, raw) ← withText do
    let o ← opening
    stringBody o (substitution inner c.size)
  return .string (String.ofList raw)

/-! ## Brackets -/

def yielded (p : Place) : Reader Expr := do
  keyword p "yield"
  (do keyword p "from"; return .compound [← inner p]) <|>
  (do match ← listed p (inner p) with
      | ([e], false) => return .compound [e]
      | _ => return .compound [.compound []]) <|>
  pure (.compound [])

def starred (p : Place) : Reader Expr := do
  symbol p "*"
  return .compound [← inner p]

def starredGroup (p : Place) : Nat → Reader Expr
  | 0 => failure
  | n + 1 => fun c => run (starredGroup p n) c
where
  run (deeper : Reader Expr) : Reader Expr := do
    symbol p "("
    let e ← starred inner p <|> deeper
    symbol p ")"
    return .compound [e]

def element (p : Place) : Reader Expr := do
  yielded inner p <|> inner p <|> starred inner p <|> (do starredGroup inner p (← get).size)

/-! ### Targets -/

/-- Something whose attribute, item or call is meant. -/
inductive Shape where
  | name (s : String)
  | access
  | result

/-! ### Comprehensions -/

/-- The clauses of a comprehension; `target` reads what `for` binds. -/
def clauses (target : Reader Unit) (p : Place) : Reader Unit := do
  let loop : Reader Unit := do
    let _ ← option? (keyword p "async")
    keyword p "for"
    target
    keyword p "in"
    let _ ← listed p (inner p)
  let test : Reader Unit := do
    keyword p "if"
    let _ ← inner p
  loop
  let _ ← many (loop <|> test)

/-- More items after the first, with commas between them; whether there is a comma. -/
def further {α : Type} (p : Place) (item : Reader α) : Reader (List α × Bool) := do
  let rest ← many (symbol p "," *> anyBlanks *> item)
  let last ← option? (symbol p ",")
  return (rest, !rest.isEmpty || last.isSome)

def elements (target : Reader Unit) (p : Place) : Reader (List Expr) := do
  let first ← element inner p
  (do clauses inner target p; return [first]) <|> do
    return first :: (← further p (element inner p)).1

def slice (p : Place) : Reader Expr := do
  let first ← option? (inner p)
  let bound : Reader Unit := do let _ ← option? (inner p)
  match ← option? (symbol p ":") with
  | some _ => do
    bound
    let _ ← option? (do symbol p ":"; bound)
    return .compound []
  | none => match first with
    | some e => return e
    | none => failure

def argument (p : Place) : Reader Bool :=
  (do let _ ← word p
      symbol p "="
      let _ ← inner p
      return false) <|>
  (do symbol p "**"; let _ ← inner p; return false) <|>
  (do let _ ← inner p; return true) <|>
  (do let _ ← starred inner p; return false) <|>
  (do let _ ← starredGroup inner p (← get).size; return false)

def arguments (target : Reader Unit) (q : Place) : Reader Unit := do
  symbol q "("
  let p := q.inside
  anyBlanks
  match ← option? (argument inner p) with
  | some plain =>
    (do guard plain; clauses inner target p) <|> (do let _ ← further p (argument inner p))
  | none => do let _ ← option? (symbol p ",")
  symbol p ")"

def subscripts (q : Place) : Reader (List Expr) := do
  symbol q "["
  let p := q.inside
  let first ← slice inner p
  let (rest, _) ← further p (slice inner p)
  symbol p "]"
  return first :: rest

def braces (target : Reader Unit) (q : Place) : Reader Expr := do
  symbol q "\x7b"
  let p := q.inside
  anyBlanks
  let value : Reader Unit := do
    symbol p ":"
    let _ ← inner p
  let spread : Reader Unit := do
    symbol p "**"
    let _ ← inner p
  let entry : Reader Unit := spread <|> (do let _ ← inner p; value)
  let body : Reader (List Expr) :=
    (do spread
        let _ ← further p entry
        return []) <|> do
      let first ← element inner p
      match ← option? value with
      | some _ => do
        clauses inner target p <|> (do let _ ← further p entry)
        return []
      | none =>
        (do clauses inner target p; return [first]) <|> do
          return first :: (← further p (element inner p)).1
  let es ← (body <|> (do let _ ← option? (symbol p ","); return []))
  symbol p "\x7d"
  return .compound es

/-! ## Operands -/

def operandKeywords : List String := ["not", "lambda"]

def atom (target : Reader Unit) (p : Place) : Reader (Expr × Shape) := do
  p.gap
  (do let first ← stringLiteral inner p
      let rest ← many (stringLiteral inner p)
      return (if rest.isEmpty then first else .compound (first :: rest), .result)) <|> do
    match ← peek? with
    | some '(' => do return (← group "(" ")", .result)
    | some '[' => do return (← group "[" "]", .result)
    | some '\x7b' => do return (← braces inner target p, .result)
    | some '.' =>
      (do symbol p "..."; return (.compound [], .result)) <|> (do number; return (.compound [], .result))
    | some c =>
      if c.isDigit then do number; return (.compound [], .result)
      else do
        let w ← bareWord
        guard !(operandKeywords.contains w)
        return (.compound [], if ["None", "True", "False"].contains w then .result else .name w)
    | none => failure
where
  group (opens closes : String) : Reader Expr := do
    symbol p opens
    let q := p.inside
    anyBlanks
    let es ← (elements inner target q) <|> pure []
    symbol q closes
    return .compound es

def trailer (target : Reader Unit) (p : Place) (e : Expr) : Reader (Expr × Shape) :=
  (do symbol p "."
      let _ ← wordAfter p
      return (.compound [e], .access)) <|>
  (do arguments inner target p; return (.compound [e], .result)) <|>
  (do let es ← subscripts inner p; return (.compound (e :: es), .access))

def trailed (target : Reader Unit) (p : Place) : Nat → Expr × Shape → Reader (Expr × Shape)
  | 0, e => pure e
  | n + 1, e => (do let e' ← trailer inner target p e.1; trailed target p n e') <|> pure e

def primary (target : Reader Unit) (p : Place) : Reader (Expr × Shape) := do
  let e ← atom inner target p
  trailed inner target p ((← get).size + 1) e

/-! ## Targets of assignments -/

/-- A name, an attribute, an item, or several in brackets; `n` bounds the nesting. -/
def targetItem : Nat → Place → Reader Target
  | 0, _ => failure
  | n + 1, p => fun c => run (targetItem n) p c
where
  run (deeper : Place → Reader Target) (p : Place) : Reader Target := do
    p.gap
    let plain : Reader Target := do
      match ← primary inner failure p with
      | (_, .name s) => return .name s
      | (_, .access) => return .access
      | (_, .result) => failure
    let group (opens closes : String) : Reader Target := do
      symbol p opens
      let q := p.inside
      let (ts, _) ← (listed q (anyBlanks *> deeper q)) <|> pure ([], false)
      symbol q closes
      notAhead (trailer inner failure p (.compound []))
      return .sequence ts
    match ← peek? with
    | some '*' => do symbol p "*"; return .starred (← plain)
    | some '(' => group "(" ")" <|> plain
    | some '[' => group "[" "]" <|> plain
    | _ => plain

def targets (p : Place) : Reader Target := do
  match ← listed p (do targetItem inner (← get).size p) with
  | ([t], false) => return t
  | (ts, _) => return .sequence ts

def loopTarget (p : Place) : Reader Unit := do let _ ← targets inner p

/-! ## Operators -/

def operandAt (p : Place) : Reader Expr := do
  p.gap
  (do symbol p "*"
      match ← primary inner (loopTarget inner p.inside) p with
      | (_, .result) => failure
      | (e, _) => return .compound [e]) <|> do
    return (← primary inner (loopTarget inner p.inside) p).1

/-- An operand with signs before it and a power of it, where `rest` reads what these apply to. -/
def signedOver (p : Place) (rest : Reader Expr) : Reader Expr := do
  p.gap
  (do let s ← sign p
      guard (s == "+" || s == "-" || s == "~")
      return .compound [← rest]) <|>
  (do keyword p "await"
      return .compound [← rest]) <|> do
    let base ← operandAt inner p
    (do symbol p "**"; return .compound [base, ← rest]) <|> pure base

def signed (p : Place) : Nat → Reader Expr
  | 0 => failure
  | n + 1 => fun c => signedOver inner p (signed p n) c

def binaryLevels : List (List String) :=
  [["|"], ["&"], ["^"], ["<<", ">>"], ["+", "-"], ["*", "@", "/", "%", "//"]]

def binary (p : Place) : List (List String) → Reader Expr
  | [] => do signed inner p ((← get).size + 1)
  | ops :: tighter => do
    let first ← binary p tighter
    let rest ← many do
      let s ← sign p
      guard (ops.contains s)
      binary p tighter
    return leftNested first rest

def comparisonSigns : List String := ["<", "<=", "==", "!=", ">=", ">", "<>"]

def comparator (p : Place) : Reader Unit :=
  (do guard (comparisonSigns.contains (← sign p))) <|>
  (do keyword p "in") <|>
  (do keyword p "not"; p.gap; keyword p "in") <|>
  (do keyword p "is"; let _ ← option? (keyword p "not"))

def comparison (p : Place) : Reader Expr := do
  let first ← binary inner p binaryLevels
  let rest ← many (comparator p *> binary inner p binaryLevels)
  return if rest.isEmpty then first else .compound (first :: rest)

/-- A parameter of a function or of `lambda`, which has no annotations. -/
def parameter (p : Place) (annotated : Bool) : Reader Unit := do
  let annotation : Reader Unit := do
    guard annotated
    symbol p ":"
    (do symbol p "*" <|> symbol p "**"; let _ ← word p) <|> (do let _ ← inner p)
  let default : Reader Unit := do
    symbol p "="
    let _ ← inner p
  let starredName : Reader Unit := do
    symbol p "**" <|> symbol p "*"
    let _ ← primary inner failure p
  (do starredName
      let _ ← option? annotation) <|>
  (do symbol p "*" <|> symbol p "/") <|>
  (do require (ahead (symbol p "("))
      let _ ← targetItem inner (← get).size p
      let _ ← option? default) <|>
  (do let w ← word p
      guard !(operandKeywords.contains w)
      let _ ← option? annotation
      let _ ← option? default)

def lambda (p : Place) : Reader Expr := do
  keyword p "lambda"
  let _ ← option? (listed p (parameter inner p false))
  symbol p ":"
  return .compound [← inner p]

def inversion (p : Place) : Nat → Reader Expr
  | 0 => failure
  | n + 1 => fun c => run (inversion p n) c
where
  run (deeper : Reader Expr) : Reader Expr := do
    p.gap
    (do keyword p "not"; return .compound [← deeper]) <|> lambda inner p <|> comparison inner p

def conjunction (p : Place) : Reader Expr := do
  let item : Reader Expr := do inversion inner p ((← get).size + 1)
  let first ← item
  return leftNested first (← many (keyword p "and" *> item))

def disjunction (p : Place) : Reader Expr := do
  let first ← conjunction inner p
  return leftNested first (← many (keyword p "or" *> conjunction inner p))

def conditional (p : Place) : Reader Expr := do
  let first ← disjunction inner p
  (do keyword p "if"
      let test ← disjunction inner p
      keyword p "else"
      return .compound [first, test, ← inner p]) <|> pure first

def named (p : Place) : Reader Expr := do
  let _ ← wordAfter p
  symbol p ":="
  return .compound [← inner p]

def anyExpression (p : Place) : Reader Expr := do
  let e ← named inner p <|> conditional inner p
  let aliases ← many (keyword p "as" *> inner p)
  return aliases.foldl (fun e _ => .compound [e]) e

end

def expression : Nat → Inner
  | 0, _ => failure
  | n + 1, p => fun c => anyExpression (expression n) p c

end Interlink.Offside
