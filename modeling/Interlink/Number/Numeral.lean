import Interlink.Number.Binary64

/-!
# Numerals

Numbers that are spelt with digits.
-/

namespace Interlink.Numeral

/-- The value of a digit below `base`, where letters of either case follow the ten digits. -/
def digit? (base : Nat) (c : Char) : Option Nat :=
  let d :=
    if c.isDigit then c.toNat - '0'.toNat
    else if 'a' ≤ c ∧ c ≤ 'z' then c.toNat - 'a'.toNat + 10
    else if 'A' ≤ c ∧ c ≤ 'Z' then c.toNat - 'A'.toNat + 10
    else base
  if d < base then some d else none

def natural? (base : Nat) (s : List Char) : Option Nat :=
  if s.isEmpty then none else (s.mapM (digit? base)).map (·.foldl (fun n d => n * base + d) 0)

/-- The number that the first `n` characters spell, and the rest. -/
def first? (base n : Nat) (s : List Char) : Option (Nat × List Char) :=
  if s.length < n then none else (natural? base (s.take n)).map (·, s.drop n)

def sign (s : List Char) : Option Char × List Char :=
  match s with
  | '+' :: rest => (some '+', rest)
  | '-' :: rest => (some '-', rest)
  | _ => (none, s)

def exponent? (s : List Char) : Option Int :=
  let (down, s) := sign s
  (natural? 10 s).map fun n => if down = some '-' then -(n : Int) else n

/-- A decimal without its sign: digits, of which some may follow a point, and perhaps a power of ten. -/
def decimal? (negative : Bool) (s : List Char) : Option Binary64 := do
  let isMark (c : Char) : Bool := c = 'e' || c = 'E'
  let exponent ← match s.dropWhile (!isMark ·) with
    | [] => some 0
    | _ :: e => exponent? e
  let body := s.takeWhile (!isMark ·)
  let whole := body.takeWhile (· ≠ '.')
  let places := (body.dropWhile (· ≠ '.')).drop 1
  let digits ← natural? 10 (whole ++ places)
  return .ofDecimal negative digits (exponent - places.length)

end Interlink.Numeral
