import Interlink.Json.Number
import Interlink.Number.Numeral

/-!
# Reading JSON

The value of a text, up to the place where the text breaks off. A reader yields what it has read together
with the rest of the text, or with nothing once it cannot go on.
-/

namespace Interlink.Json

def isGap (c : Char) : Bool := c = ' ' || c = '\n' || c = '\t' || c = '\r'

/-! ## Texts -/

def simpleEscapes : List (Char × Char) :=
  [('\x22', '\x22'), ('\\', '\\'), ('/', '/'), ('b', '\x08'), ('f', '\x0C'), ('n', '\n'), ('r', '\r'), ('t', '\t')]

/-- What a text is made of: characters, or halves of one in two units. -/
inductive Unit16 where
  | char (c : Char)
  | half (n : Nat)
deriving DecidableEq

def isHighHalf (n : Nat) : Bool := 0xD800 ≤ n && n < 0xDC00

def isLowHalf (n : Nat) : Bool := 0xDC00 ≤ n && n < 0xE000

def unitOf (n : Nat) : Unit16 := if isHighHalf n || isLowHalf n then .half n else .char (Char.ofNat n)

def units? : Nat → List Char → Option (List Unit16 × List Char)
  | 0, _ => none
  | fuel + 1, s =>
    match s with
    | [] => none
    | '\x22' :: rest => some ([], rest)
    | '\\' :: 'u' :: rest => do
      let (n, rest) ← Numeral.first? 16 4 rest
      let (us, rest) ← units? fuel rest
      return (unitOf n :: us, rest)
    | '\\' :: c :: rest => do
      let e ← simpleEscapes.lookup c
      let (us, rest) ← units? fuel rest
      return (.char e :: us, rest)
    | c :: rest => do
      if c = '\\' ∨ c.toNat < 0x20 then none
      let (us, rest) ← units? fuel rest
      return (.char c :: us, rest)

/-- The characters of the units, where a high half and a low half make one; `none` if a half stands alone. -/
def chars? : List Unit16 → Option (List Char)
  | [] => some []
  | .char c :: rest => (chars? rest).map (c :: ·)
  | .half hi :: .half lo :: rest =>
    if isHighHalf hi && isLowHalf lo then
      (chars? rest).map (Char.ofNat (0x10000 + (hi - 0xD800) * 0x400 + (lo - 0xDC00)) :: ·)
    else none
  | .half _ :: _ => none

def string? (s : List Char) : Option (Option String × List Char) :=
  (units? (s.length + 1) s).map fun (us, rest) => ((chars? us).map String.ofList, rest)

/-! ## Values -/

def after? (word : String) (s : List Char) : Option (List Char) :=
  if word.toList.isPrefixOf s then some (s.drop word.toList.length) else none

def words : List (String × Value) := [("null", .null), ("true", .bool true), ("false", .bool false)]

def scalar (s : List Char) : Value × Option (List Char) :=
  match s with
  | '\x22' :: rest =>
    match string? rest with
    | some (some t, rest) => (.str t, some rest)
    | some (none, rest) => (.unreadable, some rest)
    | none => (.broken, none)
  | _ =>
    match words.findSome? fun (w, v) => (after? w s).map (v, ·) with
    | some (v, rest) => (v, some rest)
    | none =>
      match number? s with
      | some (v, rest) => (v, some rest)
      | none => (.broken, none)

mutual

def value : Nat → List Char → Value × Option (List Char)
  | 0, _ => (.broken, none)
  | fuel + 1, s =>
    match s.dropWhile isGap with
    | '[' :: rest =>
      match rest.dropWhile isGap with
      | ']' :: rest => (.arr [] true, some rest)
      | rest =>
        let (items, rest) := items fuel rest
        (.arr items rest.isSome, rest)
    | '\x7b' :: rest =>
      match rest.dropWhile isGap with
      | '\x7d' :: rest => (.obj [] true, some rest)
      | rest =>
        let (members, rest) := members fuel rest
        (.obj members rest.isSome, rest)
    | s => scalar s

def items : Nat → List Char → List Value × Option (List Char)
  | 0, _ => ([], none)
  | fuel + 1, s =>
    let (v, rest) := value fuel s
    match rest.map (·.dropWhile isGap) with
    | some (',' :: rest) =>
      let (vs, rest) := items fuel rest
      (v :: vs, rest)
    | some (']' :: rest) => ([v], some rest)
    | _ => ([v], none)

def members : Nat → List Char → List (String × Value) × Option (List Char)
  | 0, _ => ([], none)
  | fuel + 1, s =>
    match s.dropWhile isGap with
    | '\x22' :: rest =>
      match string? rest with
      | some (some name, rest) =>
        match rest.dropWhile isGap with
        | ':' :: rest =>
          let (v, rest) := value fuel rest
          match rest.map (·.dropWhile isGap) with
          | some (',' :: rest) =>
            let (vs, rest) := members fuel rest
            ((name, v) :: vs, rest)
          | some ('\x7d' :: rest) => ([(name, v)], some rest)
          | _ => ([(name, v)], none)
        | _ => ([(name, .broken)], none)
      | _ => ([], none)
    | _ => ([], none)

end

/-- What is read from the value of a text, after which nothing may follow. -/
def decode {α : Type} (read : Value → Except Fault α) (s : String) : Except Fault α :=
  let (v, rest) := value (2 * s.length + 2) s.toList
  do
    let a ← read v
    match rest with
    | some rest => if rest.all isGap then .ok a else .error .malformed
    | none => .error .malformed

end Interlink.Json
