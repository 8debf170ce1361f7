import Interlink.Syntax.Reader
import Interlink.Text.Blank

/-!
# Words, literals and blanks of TypeScript and JavaScript

Every reader here first passes the blanks before its token. `Boundary` says how a line break acts on
what is being read, and `Boundary.stops` whether a statement ends at the next token.
-/

namespace Interlink.Braced

open Syntax Syntax.Reader

/-! ## Blanks and comments -/

def isSpace (c : Char) : Bool :=
  (c ≠ '\u0085' && Text.isBlank c) || c = '\u200B' || c = '\u2060' || c = '\uFEFF'

def isLineEnd (c : Char) : Bool :=
  c = '\n' || c = '\r' || c = '\u2028' || c = '\u2029'

def blockCommentEnd (c : Cursor) : Option Cursor := go c.rest c.size c.line
where
  go : List Char → Nat → Nat → Option Cursor
    | '*' :: '/' :: rest, size, line => some ⟨rest, size - 2, line⟩
    | x :: rest, size, line => go rest (size - 1) (if x = '\n' then line + 1 else line)
    | [], _, _ => none

def passBlanks : Nat → Cursor → Cursor
  | 0, c => c
  | n + 1, c =>
    match c.rest with
    | '/' :: '/' :: _ => passBlanks n (c.skipWhile fun x => !isLineEnd x)
    | '/' :: '*' :: _ =>
      match blockCommentEnd c.advance.advance with
      | some c' => passBlanks n c'
      | none => c
    | x :: _ => if isSpace x then passBlanks n (c.skipWhile isSpace) else c
    | [] => c

def blanks : Reader Unit := modify fun c => passBlanks c.size c

def located {α : Type} (p : Nat → Reader α) : Reader α := do
  blanks
  p (← line)

/-! ## Automatic semicolons -/

/-- How a line break acts on what is being read. -/
inductive Boundary where
  /-- Inside brackets a line break is a blank. -/
  | enclosed
  /-- A line break may end the statement. -/
  | line
  /-- As `line`, but what is read can be called or indexed on the next line. -/
  | operand
deriving DecidableEq

/-- Past the spaces and comments after a line break; `none` at a slash that opens no comment. -/
def afterBreak (s : List Char) : Option (List Char) :=
  let c := passBlanks s.length (Cursor.ofText s)
  match c.rest with
  | '/' :: _ => none
  | rest => some rest

def opensRelation (s : List Char) : Bool :=
  match s with
  | 'i' :: 'n' :: rest =>
    !(rest.headD ' ').isAlpha ||
      ("stanceof".toList.isPrefixOf rest && !((rest.drop 8).headD ' ').isAlpha)
  | _ => false

def startsAfresh (boundary : Boundary) (signature : Bool) (s : List Char) : Bool :=
  match s with
  | [] => true
  | c :: rest =>
    if ['\x60', ',', '.', ';', '*', '%', '>', '<', '=', '?', '^', '|', '&', '/', ':'].contains c then false
    else if c = '\x7b' then !signature
    else if c = '(' || c = '[' then boundary ≠ .operand
    else if c = '+' then rest.head? = some '+'
    else if c = '-' then rest.head? = some '-'
    else if c = '!' then rest.head? ≠ some '='
    else !opensRelation (c :: rest)

/-- Whether a semicolon may be left out before `s`; `n` bounds the comments on the way. -/
def semicolonImplied (boundary : Boundary) (signature : Bool) : Nat → List Char → Bool
  | 0, _ => false
  | n + 1, s =>
    match s.dropWhile fun c => isSpace c && c ≠ '\n' with
    | [] => true
    | '\x00' :: _ => true
    | '\x7d' :: rest =>
      match rest.dropWhile isSpace with
      | ':' :: _ => boundary = .operand
      | _ => true
    | '\n' :: rest =>
      match afterBreak rest with
      | some s' => startsAfresh boundary signature s'
      | none => false
    | '/' :: '/' :: rest => semicolonImplied boundary signature n (rest.dropWhile fun c => !isLineEnd c)
    | '/' :: '*' :: rest =>
      match blockCommentEnd (Cursor.ofText rest) with
      | some c => semicolonImplied boundary signature n c.rest
      | none => false
    | _ => false

def Boundary.stops (b : Boundary) : Reader Bool := do
  if b = .enclosed then return false
  let c ← get
  return semicolonImplied b false (c.size + 1) c.rest

def semicolon (b : Boundary) : Reader Unit :=
  (do blanks; exactly ';') <|> do
    let c ← get
    guard (semicolonImplied b false (c.size + 1) c.rest)

def signatureEnd : Reader Unit :=
  (do blanks; exactly ';') <|> do
    let c ← get
    guard (semicolonImplied .line true (c.size + 1) c.rest)

/-! ## Words -/

def isPunctuation (c : Char) : Bool :=
  [':', ';', '\x60', '\x22', '\x27', '@', '#', '.', ',', '|', '^', '&', '<', '=', '>', '+', '-', '*', '/',
   '\\', '%', '?', '!', '~', '(', ')', '[', ']', '\x7b', '\x7d'].contains c

def isWordChar (c : Char) : Bool := ' ' ≤ c && !isSpace c && !isPunctuation c

def isHex (c : Char) : Bool := c.isDigit || ('a' ≤ c && c ≤ 'f') || ('A' ≤ c && c ≤ 'F')

def codePoint : Reader Unit :=
  (do exactly '\x7b'; let _ ← many1 (char isHex); exactly '\x7d') <|>
  (do let _ ← char isHex; let _ ← char isHex; let _ ← char isHex; let _ ← char isHex)

def escapedChar : Reader Unit := do exactly '\\'; exactly 'u'; codePoint

def wordPiece : Reader Unit := (do let _ ← char isWordChar) <|> escapedChar

def bareWord : Reader String := do
  let (_, s) ← withText do
    (do let _ ← char fun c => isWordChar c && !c.isDigit) <|> escapedChar
    let _ ← many wordPiece
  return String.ofList s

def word : Reader String := do blanks; bareWord

def keyword (w : String) : Reader Unit := do guard ((← word) == w)

def wordExcept (reserved : List String) : Reader String := do
  let w ← word
  guard (!reserved.contains w)
  return w

def privateName : Reader Unit := do blanks; exactly '#'; let _ ← bareWord

def wordAhead : Reader String := fun c =>
  match word c with
  | some (w, _) => some (w, c)
  | none => some ("", c)

/-! ## Punctuation -/

def symbol (s : String) : Reader Unit := do blanks; text s

def operators : List String :=
  [">>>=", "===", "!==", "**=", "<<=", ">>=", "&&=", "||=", "??=", ">>>", "...", "=>", "==", "!=", "<=", ">=",
   "&&", "||", "??", "++", "--", "+=", "-=", "*=", "/=", "%=", "&=", "|=", "^=", "<<", ">>", "**", "?.", "<", ">",
   "+", "-", "*", "/", "%", "&", "|", "^", "!", "?", "=", "~"]

def operator : Reader String := do
  blanks
  let c ← get
  match operators.find? fun op => op.toList.isPrefixOf c.rest with
  | some op => do text op; return op
  | none => failure

def operatorAhead : Reader String := fun c =>
  match operator c with
  | some (op, _) => some (op, c)
  | none => some ("", c)

/-! ## Literals -/

def escape : Reader Unit := do
  exactly '\\'
  (do exactly '\r'; exactly '\n') <|>
  (do let _ ← char fun c => c ≠ 'x' && c ≠ 'u' && !('0' ≤ c && c ≤ '7')) <|>
  (do exactly 'x'; let _ ← char isHex; let _ ← char isHex) <|>
  (do exactly 'u'; codePoint) <|>
  (do let _ ← atMost (char fun c => '0' ≤ c && c ≤ '7') 3)

/-- A string up to its closing quote; a line break may come right before that. -/
def quoted (quote : Char) : Reader Unit := do
  exactly quote
  let _ ← many ((do let _ ← char fun c => c ≠ quote && c ≠ '\\' && c ≠ '\n' && c ≠ '\r') <|> escape)
  (exactly quote) <|> (do blanks; exactly quote)

def stringLiteral : Reader String := do
  blanks
  let (_, s) ← withText (quoted '\x22' <|> quoted '\x27')
  return String.ofList s

def digitsOf (p : Char → Bool) : Reader Unit := do
  let _ ← char p
  let _ ← many ((do let _ ← char p) <|> (do exactly '_'; let _ ← char p))

def exponent : Reader Unit := do
  let _ ← char fun c => c = 'e' || c = 'E'
  let _ ← option? (char fun c => c = '+' || c = '-')
  digitsOf Char.isDigit

def radixNumber : Reader Unit := do
  exactly '0'
  (do let _ ← char fun c => c = 'x' || c = 'X'
      digitsOf isHex) <|>
  (do let _ ← char fun c => c = 'b' || c = 'B'
      digitsOf fun c => c = '0' || c = '1') <|>
  (do let _ ← char fun c => c = 'o' || c = 'O'
      digitsOf fun c => '0' ≤ c && c ≤ '7')
  let _ ← option? (exactly 'n')

def decimalNumber : Reader Unit :=
  (do exactly '.'; digitsOf Char.isDigit; let _ ← option? exponent) <|> do
    digitsOf Char.isDigit
    (exactly 'n') <|> do
      let _ ← option? do
        exactly '.'
        let _ ← option? (digitsOf Char.isDigit)
      let _ ← option? exponent

def number : Reader Unit := do blanks; radixNumber <|> decimalNumber

def patternPiece : Reader Unit :=
  let escaped : Reader Unit := do exactly '\\'; let _ ← char (· ≠ '\n')
  (do let _ ← char fun c => c ≠ '/' && c ≠ '\\' && c ≠ '[' && c ≠ '\n') <|>
  escaped <|>
  (do exactly '['
      let _ ← many (escaped <|> (do let _ ← char fun c => c ≠ ']' && c ≠ '\n' && c ≠ '\\'))
      exactly ']')

def regularExpression : Reader Unit := do
  blanks
  exactly '/'
  let _ ← many1 patternPiece
  exactly '/'
  let _ ← takeWhile Char.isLower

/-- The characters of a template up to its end, a backslash or a substitution. -/
def templateText : Reader Unit := do
  let _ ← many1 ((do let _ ← char fun c => c ≠ '\x60' && c ≠ '\\' && c ≠ '$' && c ≠ '\x00') <|>
    (do exactly '$'; notAhead (exactly '\x7b')))

/-! ## Bracket groups -/

/-- Past the bracket that closes the one already open, read without a grammar: strings, templates,
comments and regular expressions are passed over. `last` is the last character that is no blank. -/
def skipGroup : Nat → Nat → Char → Cursor → Option Cursor
  | 0, _, _, _ => none
  | n + 1, depth, last, c =>
    match c.rest with
    | [] => none
    | '/' :: '/' :: _ => skipGroup n depth last (passBlanks c.size c)
    | '/' :: '*' :: _ => skipGroup n depth last (passBlanks 1 c)
    | '/' :: _ =>
      if ['(', ',', '=', ':', '[', '!', '&', '|', '?', '\x7b', '\x7d', ';', '+', '-', '*', '%', '<', '>', '~',
        '^'].contains
          last then
        match regularExpression c with
        | some (_, c') => skipGroup n depth '/' c'
        | none => skipGroup n depth '/' c.advance
      else skipGroup n depth '/' c.advance
    | x :: _ =>
      if x = '\x22' || x = '\x27' then
        match quoted x c with
        | some (_, c') => skipGroup n depth x c'
        | none => skipGroup n depth x c.advance
      else if x = '\x60' then
        let body := atMost (templateText <|> escape <|> (do text "$\x7b")) c.size
        match (do exactly '\x60'; let _ ← body; exactly '\x60' : Reader Unit) c with
        | some (_, c') => skipGroup n depth x c'
        | none => skipGroup n depth x c.advance
      else if x = '(' || x = '[' || x = '\x7b' then skipGroup n (depth + 1) x c.advance
      else if x = ')' || x = ']' || x = '\x7d' then
        match depth with
        | 0 => none
        | 1 => some c.advance
        | d + 1 => skipGroup n d x c.advance
      else skipGroup n depth (if isSpace x then last else x) c.advance

/-- What follows the bracket group ahead: the next operator, or the next character. -/
def afterGroup : Reader String := fun c =>
  let c₀ := passBlanks c.size c
  match skipGroup (c₀.size + 1) 0 '(' c₀ with
  | none => some ("", c)
  | some c₁ =>
    match operator c₁ with
    | some (op, _) => some (op, c)
    | none => some (String.ofList ((passBlanks c₁.size c₁).rest.take 1), c)

end Interlink.Braced
