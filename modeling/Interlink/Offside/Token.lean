import Interlink.Syntax.Reader
import Interlink.Text.Identifier

/-!
# Lines, words and literals of Python

A line break ends a statement unless the statement goes on in brackets. `Place` says where a reader
stands, and `Place.blanks` passes what is blank there.
-/

namespace Interlink.Offside

open Syntax Syntax.Reader

/-! ## Blanks and indentation -/

def isSpace (c : Char) : Bool :=
  ('\t' ≤ c && c ≤ '\r') || c = ' ' || c = '\u200B' || c = '\u2060' || c = '\uFEFF'

/-- Past blanks, comments and joined lines, at most `n` of them; past line breaks too if `breaks`. -/
def passBlanks (breaks : Bool) : Nat → Cursor → Cursor
  | 0, c => c
  | n + 1, c =>
    let space (x : Char) : Bool := isSpace x && (breaks || x ≠ '\n')
    match c.rest with
    | '#' :: _ => passBlanks breaks n (c.skipWhile (· ≠ '\n'))
    | '\\' :: '\n' :: _ => passBlanks breaks n c.advance.advance
    | '\\' :: '\r' :: '\n' :: _ => passBlanks breaks n c.advance.advance.advance
    | x :: _ => if space x then passBlanks breaks n (c.skipWhile space) else c
    | [] => c

/-- The indentation of the next line that holds something, and what it begins with, where a line break is
ahead; a tabulator counts eight. The end of the text is indented by nothing. -/
def indentAfter (broken : Bool) (indent : Nat) : List Char → Option (Nat × List Char)
  | [] => some (0, [])
  | '\n' :: rest => indentAfter true 0 rest
  | ' ' :: rest => indentAfter broken (indent + 1) rest
  | '\t' :: rest => indentAfter broken (indent + 8) rest
  | '\r' :: rest => indentAfter broken 0 rest
  | '\x0C' :: rest => indentAfter broken 0 rest
  | '#' :: rest => comment rest
  | '\\' :: '\n' :: rest => indentAfter broken indent rest
  | '\\' :: '\r' :: '\n' :: rest => indentAfter broken indent rest
  | s => if broken then some (indent, s) else none
where
  comment : List Char → Option (Nat × List Char)
    | [] => some (0, [])
    | '\n' :: rest => indentAfter true 0 rest
    | _ :: rest => comment rest

def indentAhead : Reader (Option Nat) := do
  return (indentAfter false 0 (← get).rest).map (·.1)

def blockEnds (indent : Nat) : Reader Bool := do
  return (← indentAhead).any fun next => next < indent

/-- Where an expression stands: in a block of the given indentation, and perhaps in brackets. -/
structure Place where
  indent : Nat
  bracketed : Bool

namespace Place

/-- Past the blanks after an operand; a line break is one in brackets only. -/
def blanks (p : Place) : Reader Unit := modify fun c => passBlanks p.bracketed c.size c

/-- Past the blanks before an operand. A line break is one even outside brackets, but the line after it has
to stay in the block, unless it begins with a string. -/
def gap (p : Place) : Reader Unit := do
  let c ← get
  match indentAfter false 0 c.rest with
  | some (indent, s) =>
    guard (p.indent ≤ indent || s.head? = some '\x22' || s.head? = some '\x27' || s.head? = some '\x60')
  | none => pure ()
  set (passBlanks true c.size c)

def inside (p : Place) : Place := { p with bracketed := true }

end Place

def anyBlanks : Reader Unit := modify fun c => passBlanks true c.size c

def lineEnd : Reader Unit := do
  modify fun c => passBlanks false c.size c
  match (← get).rest with
  | [] => pure ()
  | x :: _ => guard (x = '\n')

/-! ## Words and punctuation -/

def bareWord : Reader String := do
  let (_, s) ← withText do
    let _ ← char Text.isIdentifierStart
    let _ ← takeWhile Text.isIdentifierContinue
  return String.ofList s

def word (p : Place) : Reader String := do p.blanks; bareWord

def wordAfter (p : Place) : Reader String := do p.gap; bareWord

def keyword (p : Place) (w : String) : Reader Unit := do guard ((← word p) == w)

def signs : List String :=
  ["**=", "//=", ">>=", "<<=", "...", "**", "//", ">>", "<<", "<=", ">=", "==", "!=", "<>", "+=", "-=", "*=", "/=",
   "@=", "%=", "&=", "^=", "|=", ":=", "->", "+", "-", "*", "/", "%", "@", "&", "|", "^", "~", "<", ">",
   "=", ":", ",", ".", ";", "(", ")", "[", "]", "\x7b", "\x7d"]

def sign (p : Place) : Reader String := do
  p.blanks
  let c ← get
  match signs.find? fun s => s.toList.isPrefixOf c.rest with
  | some s => do text s; return s
  | none => failure

def symbol (p : Place) (s : String) : Reader Unit := do guard ((← sign p) == s)

/-- One or more items with commas between them, and perhaps one after the last; whether there is a comma. -/
def listed {α : Type} (p : Place) (item : Reader α) : Reader (List α × Bool) := do
  let first ← item
  let rest ← many (symbol p "," *> item)
  let last ← option? (symbol p ",")
  return (first :: rest, !rest.isEmpty || last.isSome)

/-! ## Numbers -/

def isHex (c : Char) : Bool := c.isDigit || ('a' ≤ c && c ≤ 'f') || ('A' ≤ c && c ≤ 'F')

/-- Digits, each run of them perhaps with an underscore before it. -/
def radixDigits (p : Char → Bool) : Reader Unit := do
  let _ ← many1 (do
    let _ ← option? (exactly '_')
    let _ ← many1 (char p))

/-- Decimal digits, each run of them perhaps with an underscore after it. -/
def digits : Reader Unit := do
  let _ ← many1 (do
    let _ ← many1 (char Char.isDigit)
    let _ ← option? (exactly '_'))

def exponent : Reader Unit := do
  let _ ← char fun c => c = 'e' || c = 'E'
  let _ ← option? (char fun c => c = '+' || c = '-')
  digits

def radixNumber : Reader Unit := do
  exactly '0'
  (do let _ ← char fun c => c = 'x' || c = 'X'
      radixDigits isHex) <|>
  (do let _ ← char fun c => c = 'o' || c = 'O'
      radixDigits fun c => '0' ≤ c && c ≤ '7') <|>
  (do let _ ← char fun c => c = 'b' || c = 'B'
      radixDigits fun c => c = '0' || c = '1')
  let _ ← option? (char fun c => c = 'l' || c = 'L')

def number : Reader Unit :=
  let imaginary : Reader Unit := do let _ ← option? (char fun c => c = 'j' || c = 'J')
  radixNumber <|>
  (do digits
      exactly '.'
      let _ ← option? digits
      let _ ← option? exponent
      imaginary) <|>
  (do exactly '.'
      digits
      let _ ← option? exponent
      imaginary) <|>
  (do digits; exponent; imaginary) <|>
  (do digits
      let _ ← option? (char fun c => ['l', 'L', 'j', 'J'].contains c))

/-! ## Strings -/

/-- The letters before a string and its quotes. -/
structure Opening where
  format : Bool
  raw : Bool
  quote : Char
  triple : Bool

def opening : Reader Opening := do
  let letters ← takeWhile fun c => ['f', 'F', 'r', 'R', 'b', 'B', 'u', 'U'].contains c
  let quote ← char fun c => c = '\x22' || c = '\x27' || c = '\x60'
  let triple ← if quote = '\x60' then pure none else option? (do exactly quote; exactly quote)
  let has (a b : Char) : Bool := letters.contains a || letters.contains b
  return ⟨has 'f' 'F', has 'r' 'R', quote, triple.isSome⟩

def closing (o : Opening) : Reader Unit := do
  exactly o.quote
  if o.triple then do exactly o.quote; exactly o.quote

def escape : Reader Unit := do
  exactly '\\'
  let _ ← option? (
    (do let _ ← char fun c => ['\x27', '\x22', 'a', 'b', 'f', 'n', 'r', 't', 'v', '\\', '\n'].contains c) <|>
    (do exactly '\r'; exactly '\n') <|>
    (do exactly 'N'
        exactly '\x7b'
        let _ ← many1 (char (· ≠ '\x7d'))
        exactly '\x7d'))

def rawEscape (o : Opening) : Reader Unit := do
  exactly '\\'
  let _ ← option? (
    (do let _ ← char fun c => c = o.quote || c = '\\' || c = '\n') <|>
    (do exactly '\r'; let _ ← option? (exactly '\n')))

/-- One plain character of a string. A line break goes on only in triple quotes, or first in a run of
plain characters. -/
def plainChar (o : Opening) (first : Bool) : Reader Unit := do
  notAhead (closing o)
  let _ ← char fun c =>
    (c ≠ '\n' || o.triple || first) && c ≠ '\\' && c ≠ '\x00' && !(o.format && (c = '\x7b' || c = '\x7d'))

def plainText (o : Opening) : Reader Unit := do
  let piece (first : Bool) : Reader Unit :=
    plainChar o first <|> (do guard o.raw; rawEscape o)
  piece true
  let _ ← many (piece false)

def stringBody (o : Opening) (substitution : Reader Unit) : Reader Unit := do
  let _ ← many (
    plainText o <|>
    (do guard !o.raw; escape) <|>
    (do guard o.format; text "\x7b\x7b" <|> text "\x7d\x7d") <|>
    (do guard o.format; substitution))
  closing o

end Interlink.Offside
