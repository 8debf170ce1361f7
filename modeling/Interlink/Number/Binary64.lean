/-!
# Binary floating point

Numbers of 64 bits, held exactly and worked out in whole numbers: the number nearest to a ratio, and the
shortest decimal that reads back as the same number.
-/

namespace Interlink

inductive Binary64 where
  | finite (negative : Bool) (mantissa : Nat) (exponent : Int)
  | infinite (negative : Bool)
  | nan
deriving DecidableEq, Repr

namespace Binary64

def leastExponent : Int := -1074

def greatestExponent : Int := 971

def roundDiv (n d : Nat) : Nat :=
  let q := n / d
  let r := n % d
  if 2 * r < d then q else if d < 2 * r then q + 1 else if q % 2 = 0 then q else q + 1

def overPower (n d : Nat) (e : Int) : Nat × Nat :=
  if 0 ≤ e then (n, d * Nat.pow 2 e.toNat) else (n * Nat.pow 2 (-e).toNat, d)

/-- The exponent with which the mantissa of `n / d` has 53 bits, or the least one. -/
def exponentFor (n d : Nat) : Int :=
  let e : Int := (n.log2 : Int) - d.log2 - 52
  let (a, b) := overPower n d e
  max leastExponent (if a < Nat.pow 2 52 * b then e - 1 else e)

def ofRatio (negative : Bool) (n d : Nat) : Binary64 :=
  if n = 0 then finite negative 0 leastExponent
  else
    let e := exponentFor n d
    let (a, b) := overPower n d e
    let m := roundDiv a b
    let (m, e) := if m = Nat.pow 2 53 then (Nat.pow 2 52, e + 1) else (m, e)
    if greatestExponent < e then infinite negative else finite negative m e

def ofDecimal (negative : Bool) (digits : Nat) (e : Int) : Binary64 :=
  let size : Int := (Nat.toDigits 10 digits).length + e
  if digits = 0 ∨ size < -400 then finite negative 0 leastExponent
  else if 400 < size then infinite negative
  else if 0 ≤ e then ofRatio negative (digits * Nat.pow 10 e.toNat) 1
  else ofRatio negative digits (Nat.pow 10 (-e).toNat)

/-- The multiple of `10 ^ t` next to `v / d` that lies between `lo / d` and `hi / d`, if there is one. -/
def onGrid? (inclusive : Bool) (lo v hi d : Nat) (t : Int) : Option Nat :=
  let a := Nat.pow 10 (-t).toNat
  let b := Nat.pow 10 t.toNat * d
  let fits (c : Nat) : Bool :=
    if inclusive then lo * a ≤ c * b && c * b ≤ hi * a else lo * a < c * b && c * b < hi * a
  let c := v * a / b
  match fits c, fits (c + 1) with
  | true, true => some (if 2 * (v * a - c * b) ≤ b then c else c + 1)
  | true, false => some c
  | false, true => some (c + 1)
  | false, false => none

/-- The coarsest grid of powers of ten, from `10 ^ t` down, that has a multiple for the number. -/
def shortestFrom (inclusive : Bool) (lo v hi d : Nat) : Nat → Int → Nat × Int
  | 0, t => (v * Nat.pow 10 (-t).toNat / (Nat.pow 10 t.toNat * d), t)
  | fuel + 1, t =>
    match onGrid? inclusive lo v hi d t with
    | some c => (c, t)
    | none => shortestFrom inclusive lo v hi d fuel (t - 1)

/-- The shortest decimal among those nearest to no other number, as digits and a power of ten. -/
def shortest (m : Nat) (e : Int) : Nat × Int :=
  if m = 0 then (0, 0)
  else
    let below := if m = Nat.pow 2 52 ∧ leastExponent < e then 1 else 2
    let (s, d) := if 2 ≤ e then (Nat.pow 2 (e - 2).toNat, 1) else (1, Nat.pow 2 (2 - e).toNat)
    let v := 4 * m * s
    let top : Int := (Nat.toDigits 10 (v / d)).length
    let top : Int := if v / d = 0 then 1 - ((Nat.toDigits 10 (d / v)).length : Int) else top
    shortestFrom (m % 2 = 0) ((4 * m - below) * s) v ((4 * m + 2) * s) d 25 (top + 1)

/-- The digits of a decimal in positional notation, with at least one digit on either side of the point. -/
def positional (digits : Nat) (t : Int) : String :=
  let ds := Nat.toDigits 10 digits
  if 0 ≤ t then String.ofList (ds ++ List.replicate t.toNat '0') ++ ".0"
  else
    let places := (-t).toNat
    let padded := List.replicate (places + 1 - ds.length) '0' ++ ds
    let whole := padded.length - places
    String.ofList (padded.take whole) ++ "." ++ String.ofList (padded.drop whole)

def text : Binary64 → String
  | finite negative m e =>
    let (digits, t) := shortest m e
    (if negative then "-" else "") ++ positional digits t
  | infinite negative => if negative then "-inf" else "inf"
  | nan => "NaN"

/-- Whether two numbers are equal; zeros are, whatever their signs. -/
def same (x y : Binary64) : Bool :=
  match x, y with
  | finite _ 0 _, finite _ 0 _ => true
  | x, y => x = y

def isFinite : Binary64 → Bool
  | finite .. => true
  | _ => false

end Binary64

end Interlink
