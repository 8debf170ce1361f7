import Interlink.Number.Numeral
import Interlink.Syntax.Reader
import Interlink.Timestamp
import Interlink.Toml.Value

/-!
# Reading TOML

The value of a text: values under keys, line by line, in sections with headers.
-/

namespace Interlink.Toml

open Syntax Syntax.Reader

/-! ## Blanks -/

def isBlank (c : Char) : Bool := c = ' ' || c = '\t'

def isPrintable (c : Char) : Bool := c = '\t' || (' ' ≤ c && c ≠ '\x7F')

def blanks : Reader Unit := discard (takeWhile isBlank)

def newline : Reader Char := exactly '\n' *> pure '\n' <|> text "\r\n" *> pure '\n'

def comment : Reader Unit := exactly '#' *> discard (takeWhile isPrintable)

def lineEnd : Reader Unit := do
  blanks
  discard (option? comment)
  discard newline <|> atEnd

def gap : Reader Unit :=
  discard (many (oneOf [discard (char isBlank), discard newline, comment *> (discard newline <|> atEnd)]))

/-! ## Texts -/

def escapes : List (Char × Char) :=
  [('b', '\x08'), ('t', '\t'), ('n', '\n'), ('f', '\x0C'), ('r', '\r'), ('\x22', '\x22'), ('\\', '\\')]

def codeLengths : List (Char × Nat) := [('u', 4), ('U', 8)]

def times (p : Reader Char) : Nat → Reader (List Char)
  | 0 => pure []
  | n + 1 => do return (← p) :: (← times p n)

def number (base n : Nat) : Reader Nat := do
  let digits ← times (char fun c => (Numeral.digit? base c).isSome) n
  match Numeral.natural? base digits with
  | some n => return n
  | none => failure

def escape : Reader Char := do
  exactly '\\'
  let c ← char fun _ => true
  match escapes.lookup c, codeLengths.lookup c with
  | some e, _ => return e
  | _, some n =>
    let code ← number 16 n
    if h : code.isValidChar then return Char.ofNatAux code h else failure
  | _, _ => failure

/-- Past the end of a line after a backslash, and the blanks that follow. -/
def joinedLine : Reader (List Char) := do
  exactly '\\'
  blanks
  discard newline
  discard (many (discard (char isBlank) <|> discard newline))
  return []

def lineText (quote : Char) : Reader String := do
  let escapes := quote = '\x22'
  let plain := char fun c => isPrintable c && c ≠ quote && !(escapes && c = '\\')
  exactly quote
  let s ← many (if escapes then plain <|> escape else plain)
  exactly quote
  return String.ofList s

/-- A text between three quotes. Inside, one or two quotes stand for themselves. -/
def blockText (quote : Char) : Reader String := do
  let escapes := quote = '\x22'
  let plain := char fun c => isPrintable c && c ≠ quote && !(escapes && c = '\\')
  let quotes : Reader (List Char) := takeWhile (· = quote)
  let inner : Reader (List Char) := do
    let q ← quotes
    guard (0 < q.length && q.length ≤ 2)
    return q
  let piece : Reader (List Char) := many1 plain <|> (· :: []) <$> newline <|> inner
  discard (times (char (· = quote)) 3)
  discard (option? newline)
  let s ← many (if escapes then oneOf [piece, joinedLine, (· :: []) <$> escape] else piece)
  let last ← quotes
  guard (3 ≤ last.length && last.length ≤ 5)
  return String.ofList (s.flatten ++ last.drop 3)

/-! ## Keys -/

def isBare (c : Char) : Bool := c.isAlphanum || c = '-' || c = '_'

def simpleKey : Reader String :=
  oneOf [lineText '\x22', lineText '\x27', String.ofList <$> many1 (char isBare)]

def depthLimit : Nat := 80

def key : Reader (List String) := do
  let path ← sepBy1 (blanks *> simpleKey <* blanks) (exactly '.')
  guard (path.length < depthLimit)
  return path

/-! ## Numbers -/

def digits (base : Nat) : Reader (List Char) := do
  let digit := char fun c => (Numeral.digit? base c).isSome
  return (← digit) :: (← many (option? (exactly '_') *> digit))

def sign : Reader (Option Char) := option? (char fun c => c = '+' || c = '-')

def wholePart : Reader (List Char) := do
  match ← peek? with
  | some '0' => return [← char fun _ => true]
  | _ => digits 10

def exponentPart : Reader (List Char) := do
  let e ← char fun c => c = 'e' || c = 'E'
  let s ← sign
  return e :: s.toList ++ (← digits 10)

def fraction : Reader (List Char) := do
  exactly '.'
  return '.' :: (← digits 10)

def float : Reader Value := do
  let s ← sign
  let negative := s = some '-'
  let named : Reader Binary64 := text "inf" *> pure (.infinite negative) <|> text "nan" *> pure .nan
  let decimal : Reader Binary64 := do
    let whole ← wholePart
    let more ← exponentPart <|> (do return (← fraction) ++ ((← option? exponentPart).getD []))
    match Numeral.decimal? negative (whole ++ more) with
    | some x => if x = .infinite false then failure else return x
    | none => failure
  return .float (← named <|> decimal)

def integer : Reader Value := do
  let based (mark : String) (base : Nat) : Reader Int := do
    text mark
    match Numeral.natural? base (← digits base) with
    | some n => return n
    | none => failure
  let decimal : Reader Int := do
    let s ← sign
    match Numeral.natural? 10 (← wholePart) with
    | some n => return if s = some '-' then -(n : Int) else n
    | none => failure
  let n ← oneOf [based "0x" 16, based "0o" 8, based "0b" 2, decimal]
  guard (-Int.pow 2 63 ≤ n && n < Int.pow 2 63)
  return .int n

/-! ## Times -/

def twoDigits (greatest : Nat) : Reader Unit := do guard ((← number 10 2) ≤ greatest)

def date : Reader Unit := do
  let year ← number 10 4
  exactly '-'
  let month ← number 10 2
  exactly '-'
  let day ← number 10 2
  guard (1 ≤ month && month ≤ 12 && 1 ≤ day && day ≤ Timestamp.daysInMonth year month)

def clock : Reader Unit := do
  twoDigits 23
  exactly ':'
  twoDigits 59
  exactly ':'
  twoDigits 60
  discard (option? (exactly '.' *> many1 (char Char.isDigit)))

def offset : Reader Unit :=
  discard (char fun c => c = 'Z' || c = 'z') <|> do
    discard (char fun c => c = '+' || c = '-')
    twoDigits 23
    exactly ':'
    twoDigits 59

def time : Reader Value := do
  let ofDay : Reader Unit := do
    discard (char fun c => c = 'T' || c = 't' || c = ' ')
    clock
    discard (option? offset)
  (date *> discard (option? ofDay)) <|> clock
  return .time

/-! ## Values -/

def scalar : Reader Value :=
  oneOf [.str <$> blockText '\x22', .str <$> blockText '\x27', .str <$> lineText '\x22', .str <$> lineText '\x27',
    time, float, integer, text "true" *> pure (.bool true), text "false" *> pure (.bool false)]

/-- A list between brackets, the last item of which may be followed by a comma too. -/
def array (item : Reader Value) : Reader Value := do
  exactly '['
  let items ← option? (sepBy1 (gap *> item <* gap) (exactly ','))
  if items.isSome then discard (option? (exactly ','))
  gap
  exactly ']'
  return .array (items.getD [])

def entry (value : Reader Value) : Reader (List String × Value) := do
  let path ← key
  exactly '='
  blanks
  return (path, ← value)

def braces (value : Reader Value) : Reader Value := do
  exactly '\x7b'
  let values ← option? (sepBy1 (blanks *> entry value <* blanks) (exactly ','))
  blanks
  exactly '\x7d'
  match Entries.addAll .braces [] (values.getD []) with
  | some es => return .table .braces es
  | none => failure

/-- A value whose arrays and tables are nested at most `depth` deep. -/
def value : Nat → Reader Value
  | 0 => scalar
  | depth + 1 => oneOf [scalar, array (value depth), braces (value depth)]

/-! ## The whole text -/

def line : Reader (List String × Value) := gap *> entry (value (depthLimit - 1)) <* lineEnd

def headed : Reader Section := do
  gap
  let (path, repeated) ←
    (do text "[["; let path ← key; text "]]"; return (path, true)) <|>
    (do exactly '['; let path ← key; exactly ']'; return (path, false))
  lineEnd
  return ⟨path, repeated, ← many line⟩

def document : Reader (Option Value) := do
  discard (option? (exactly '\uFEFF'))
  let values ← many line
  let sections ← many headed
  gap
  return Value.ofSections values sections

def Value.ofText? (s : String) : Option Value := (document.run? s.toList).join

end Interlink.Toml
