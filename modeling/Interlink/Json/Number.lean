import Interlink.Json.Value

/-!
# JSON numbers

A number without a point or an exponent is whole if 64 bits hold it. Any other number is taken from the
digits that 64 bits hold, in two steps: their nearest number, scaled by a power of ten.
-/

namespace Interlink.Json

def digits (s : List Char) : List Nat × List Char :=
  ((s.takeWhile Char.isDigit).map fun c => c.toNat - '0'.toNat, s.dropWhile Char.isDigit)

/-- The digits of a number, as the whole number that they begin with and the power of ten for the rest. -/
structure Significand where
  value : Nat
  exponent : Int

def wordLimit : Nat := Nat.pow 2 64

/-- With the digits before the point; those that do not fit any more count as zeros. -/
def Significand.addWhole (s : Significand) : List Nat → Significand
  | [] => s
  | d :: rest =>
    if s.value * 10 + d < wordLimit then addWhole ⟨s.value * 10 + d, s.exponent⟩ rest
    else ⟨s.value, s.exponent + rest.length + 1⟩

/-- With the digits after the point; those that do not fit any more count for nothing. -/
def Significand.addPlaces (s : Significand) : List Nat → Significand
  | [] => s
  | d :: rest =>
    if s.value * 10 + d < wordLimit then addPlaces ⟨s.value * 10 + d, s.exponent - 1⟩ rest else s

def scaleOnce (x : Binary64) (power : Nat) (up : Bool) : Binary64 :=
  match x, Binary64.ofDecimal false 1 power with
  | .finite _ m e, .finite _ n f =>
    let (a, b, e) := if up then (m * n, 1, e + f) else (m, n, e - f)
    if 0 ≤ e then .ofRatio false (a * Nat.pow 2 e.toNat) b else .ofRatio false a (b * Nat.pow 2 (-e).toNat)
  | x, _ => x

def greatestPower : Nat := 308

def scaled : Nat → Binary64 → Int → Option Binary64
  | 0, x, _ => some x
  | fuel + 1, x, e =>
    if e.natAbs ≤ greatestPower then
      let y := scaleOnce x e.natAbs (0 ≤ e)
      if y.isFinite then some y else none
    else if x = .finite false 0 Binary64.leastExponent then some x
    else if 0 ≤ e then none
    else scaled fuel (scaleOnce x greatestPower false) (e + greatestPower)

def Significand.number (s : Significand) : Option Binary64 :=
  -- after four steps down nothing is left of any number
  scaled 5 (.ofRatio false s.value 1) s.exponent

def negate : Binary64 → Binary64
  | .finite negative m e => .finite (!negative) m e
  | .infinite negative => .infinite (!negative)
  | .nan => .nan

def floating (negative : Bool) (s : Significand) : Value :=
  match s.number with
  | some x => .float (if negative then negate x else x)
  | none => .unreadable

def exponent? (s : List Char) : Option (Int × List Char) :=
  let (down, s) := match s with
    | '+' :: rest => (false, rest)
    | '-' :: rest => (true, rest)
    | _ => (false, s)
  match digits s with
  | ([], _) => none
  | (ds, rest) =>
    let n : Int := (min (ds.foldl (fun n d => n * 10 + d) 0) (Nat.pow 2 31) : Nat)
    some (if down then -n else n, rest)

def unsigned? (negative : Bool) (s : List Char) : Option (Value × List Char) :=
  let (whole, s) := digits s
  let fits := (⟨0, 0⟩ : Significand).addWhole whole
  match whole, s with
  | [], _ => none
  | 0 :: _ :: _, _ => none
  | _, '.' :: rest =>
    match digits rest with
    | ([], _) => none
    | (places, rest) => scaledBy (fits.addPlaces places) rest
  | _, s =>
    match s with
    | c :: _ => if c = 'e' ∨ c = 'E' then scaledBy fits s else some (wholeNumber fits, s)
    | [] => some (wholeNumber fits, s)
where
  scaledBy (v : Significand) (s : List Char) : Option (Value × List Char) :=
    match s with
    | c :: rest =>
      if c = 'e' ∨ c = 'E' then
        (exponent? rest).map fun (n, rest) => (floating negative ⟨v.value, v.exponent + n⟩, rest)
      else some (floating negative v, s)
    | [] => some (floating negative v, s)
  wholeNumber (v : Significand) : Value :=
    if v.exponent = 0 then
      if !negative then .int v.value
      else if 0 < v.value ∧ v.value ≤ Nat.pow 2 63 then .int (-v.value)
      else floating negative v
    else floating negative v

def number? : List Char → Option (Value × List Char)
  | '-' :: rest => unsigned? true rest
  | s => unsigned? false s

end Interlink.Json
