import Interlink.Number.Numeral
import Interlink.Proofs.Text.Cut
import Interlink.Text.Quotes

/-!
# Values of string literals

A string literal is some letters, quotes, a body and the same quotes again. The letters and the
escapes in the body decide which text it stands for. Taking the quotes off the ends of the whole
literal gives that text where there are neither.
-/

namespace Interlink.Offside

open Text (isQuote unquote)

/-! ## Escapes -/

def character? (code : Nat) : Option Char :=
  if h : code.isValidChar then some (Char.ofNatAux code h) else none

def simpleEscapes : List (Char × Char) :=
  [('\\', '\\'), ('\x27', '\x27'), ('\x22', '\x22'), ('a', '\x07'), ('b', '\x08'), ('f', '\x0C'), ('n', '\n'),
    ('r', '\r'),
   ('t', '\t'), ('v', '\x0B')]

def codeLengths : List (Char × Nat) := [('x', 2), ('u', 4), ('U', 8)]

def isOctal (c : Char) : Bool := '0' ≤ c && c ≤ '7'

/-- What a backslash and the text after it stand for, and how much of the text belongs to it; `none`
for malformed escapes. A backslash before anything else stands for itself. -/
def escape? (named : String → Option Char) : List Char → Option (List Char × Nat)
  | [] => some (['\\'], 0)
  | '\n' :: _ => some ([], 1)
  | '\r' :: rest => some ([], if rest.head? = some '\n' then 2 else 1)
  | 'N' :: rest =>
    let name := (rest.drop 1).takeWhile (· ≠ '\x7d')
    if rest.head? = some '\x7b' && rest.contains '\x7d' then
      (named (String.ofList name)).map ([·], name.length + 3)
    else none
  | c :: rest =>
    match simpleEscapes.lookup c, codeLengths.lookup c with
    | some e, _ => some ([e], 1)
    | none, some length => do
      let (code, _) ← Numeral.first? 16 length rest
      return ([← character? code], length + 1)
    | none, none =>
      match ((c :: rest).takeWhile isOctal).take 3 with
      | [] => some (['\\'], 0)
      | digits => do return ([← character? (← Numeral.natural? 8 digits)], digits.length)

/-- The text that a body stands for, from the character after the next `skipped` ones on. In a
formatted string, braces are doubled, and a single one begins an expression. -/
def decode? (named : String → Option Char) (raw formatted : Bool) :
    (skipped : Nat) → List Char → Option (List Char)
  | _, [] => some []
  | skipped + 1, _ :: rest => decode? named raw formatted skipped rest
  | 0, c :: rest =>
    if c = '\\' && !raw then do
      let (s, length) ← escape? named rest
      return s ++ (← decode? named raw formatted length rest)
    else if formatted && (c = '\x7b' || c = '\x7d') then
      if rest.head? = some c then (decode? named raw formatted 1 rest).map (c :: ·) else none
    else if c = '\r' then
      (decode? named raw formatted (if rest.head? = some '\n' then 1 else 0) rest).map ('\n' :: ·)
    else (decode? named raw formatted 0 rest).map (c :: ·)

theorem decode?_of_unescaped (named : String → Option Char) (raw formatted : Bool) {body : List Char}
    (h : ∀ c ∈ body, c ≠ '\\' ∧ c ≠ '\r') (hf : formatted = true → ∀ c ∈ body, c ≠ '\x7b' ∧ c ≠ '\x7d') :
    decode? named raw formatted 0 body = some body := by
  induction body with
  | nil => rfl
  | cons c body ih =>
    have later := ih (fun c hc => h c (List.mem_cons_of_mem _ hc)) fun e c hc => hf e c (List.mem_cons_of_mem _ hc)
    obtain ⟨hb, hr⟩ := h c List.mem_cons_self
    cases formatted with
    | false => simp [decode?, later, hb, hr]
    | true =>
      obtain ⟨ho, hc⟩ := hf rfl c List.mem_cons_self
      simp [decode?, later, hb, hr, ho, hc]

/-! ## Literals -/

structure Literal where
  letters : List Char
  quotes : List Char
  body : List Char

namespace Literal

def text (l : Literal) : List Char := l.letters ++ (l.quotes ++ (l.body ++ l.quotes))

def quotesOf : List Char → List Char
  | q :: q' :: q'' :: _ => if q = q' && q = q'' then [q, q, q] else [q]
  | q :: _ => [q]
  | [] => []

def isLetter (c : Char) : Bool := ['f', 'F', 'r', 'R', 'b', 'B', 'u', 'U'].contains c

def ofText (s : List Char) : Literal :=
  let rest := s.dropWhile isLetter
  let quotes := quotesOf rest
  ⟨s.takeWhile isLetter, quotes, (rest.drop quotes.length).take (rest.length - 2 * quotes.length)⟩

def has (l : Literal) (small big : Char) : Bool := l.letters.contains small || l.letters.contains big

/-- The text that a literal stands for, where `named` knows the characters with names. Bytes are no
text, and neither are expressions in backticks. -/
def value? (named : String → Option Char) (l : Literal) : Option String :=
  if l.has 'b' 'B' || l.quotes.head? = some '\x60' then none
  else (decode? named (l.has 'r' 'R') (l.has 'f' 'F') 0 l.body).map String.ofList

end Literal

def valueOf? (named : String → Option Char) (raw : String) : Option String :=
  (Literal.ofText raw.toList).value? named

example : ["'a'", "u\x22\x22\x22a\x22\x22\x22", "rb'a'", "Rf'\x7b\x7b\\'", "f'\x7ba\x7d'",
  "'\\x61\\142\\N\x7bc\x7d\\d'"].map
    (valueOf? fun name => if name = "c" then some 'c' else none) =
      [some "a", some "a", none, some "\x7b\\", none, some "abc\\d"] := by
  decide +kernel

def IsLiteral (raw : String) : Prop :=
  let l := Literal.ofText raw.toList
  raw.toList = l.text ∧ l.quotes ≠ [] ∧ ∀ q ∈ l.quotes, isQuote q = true

def IsPlainLiteral (raw : String) : Prop :=
  let l := Literal.ofText raw.toList
  IsLiteral raw ∧ l.letters = [] ∧ l.quotes.head? ≠ some '\x60' ∧ (∀ c ∈ l.body, c ≠ '\\' ∧ c ≠ '\r') ∧
    (∀ c ∈ l.body.head?, isQuote c = false) ∧ ∀ c ∈ l.body.getLast?, isQuote c = false

/-! ## Quotes at the ends -/

theorem toList_unquote (s : String) : (unquote s).toList = (s.toList.dropWhile isQuote).rdropWhile isQuote :=
  String.toList_ofList

theorem unquote_of_bare {s : List Char} (first : ∀ c ∈ s.head?, isQuote c = false)
    (last : ∀ c ∈ s.getLast?, isQuote c = false) : unquote (String.ofList s) = String.ofList s := by
  rw [← String.toList_inj, toList_unquote, String.toList_ofList]
  have front : s.dropWhile isQuote = s := by
    cases s with
    | nil => rfl
    | cons c s => exact List.dropWhile_cons_of_neg (by simp [first c rfl])
  rw [front, List.rdropWhile_eq_self_iff]
  intro nonempty
  simp [last _ (List.getLast?_eq_some_getLast nonempty)]

namespace Literal

variable {l : Literal}

theorem unquote_of_no_letters (hl : l.letters = []) (hq : ∀ q ∈ l.quotes, isQuote q = true) :
    unquote (String.ofList l.text) = unquote (String.ofList l.body) := by
  rw [← String.toList_inj, toList_unquote, toList_unquote, String.toList_ofList, String.toList_ofList, text, hl,
    List.nil_append, List.dropWhile_append_of_pos hq, List.dropWhile_append]
  split
  · next h =>
    rw [List.isEmpty_iff.mp h, List.rdropWhile_nil, List.dropWhile_eq_nil_iff.mpr hq, List.rdropWhile_nil]
  · exact Text.rdropWhile_append_of_pos hq _

theorem value?_of_no_letters (named : String → Option Char) (hl : l.letters = [])
    (hq : l.quotes.head? ≠ some '\x60')
    (hb : ∀ c ∈ l.body, c ≠ '\\' ∧ c ≠ '\r') : l.value? named = some (String.ofList l.body) := by
  have decoded := decode?_of_unescaped named false false hb nofun
  simp [value?, has, hl, hq, decoded]

end Literal

theorem valueOf?_of_plain (named : String → Option Char) {raw : String} (h : IsPlainLiteral raw) :
    valueOf? named raw = some (unquote raw) := by
  obtain ⟨⟨written, -, quotes⟩, letters, no_backtick, unescaped, first, last⟩ := h
  have whole : unquote raw = unquote (String.ofList (Literal.ofText raw.toList).text) := by
    rw [← written, String.ofList_toList]
  rw [valueOf?, Literal.value?_of_no_letters named letters no_backtick unescaped, whole,
    Literal.unquote_of_no_letters letters quotes, unquote_of_bare first last]

end Interlink.Offside
