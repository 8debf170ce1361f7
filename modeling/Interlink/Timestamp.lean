import Interlink.Text.Blank

/-!
# Timestamps

Moments in universal time, read from and written as dates with times of day. Days count from the first of
January 1970 in the Gregorian calendar.
-/

namespace Interlink

structure Timestamp where
  day : Int
  second : Nat
  /-- Of the second; a leap second continues the second before it. -/
  nano : Nat
deriving DecidableEq, Repr

namespace Timestamp

open Text

/-! ## The calendar -/

def daySeconds : Nat := 86400

def nanosPerSecond : Nat := 1000000000

def daysBeforeYear (y : Int) : Int := 365 * y + y / 4 - y / 100 + y / 400

def daysBeforeMonth (m : Nat) : Nat := (153 * m + 2) / 5

/-- From the first of March of the year 0 to the first of January 1970. -/
def epochDay : Int := 719468

def dayOf (year : Int) (month day : Nat) : Int :=
  let y := if month ≤ 2 then year - 1 else year
  daysBeforeYear y + daysBeforeMonth ((month + 9) % 12) + day - 1 - epochDay

def isLeapYear (y : Int) : Bool := y % 4 = 0 && (y % 100 ≠ 0 || y % 400 = 0)

def daysInMonth (year : Int) (month : Nat) : Nat :=
  if month = 2 then (if isLeapYear year then 29 else 28) else if [4, 6, 9, 11].contains month then 30 else 31

def dateOf (day : Int) : Int × Nat × Nat :=
  let n := day + epochDay
  let era := n / 146097
  let d := (n % 146097).toNat
  let y := (d - d / 1460 + d / 36524 - d / 146096) / 365
  let r := d - (365 * y + y / 4 - y / 100)
  let m := (5 * r + 2) / 153
  let month := if m < 10 then m + 3 else m - 9
  ((if month ≤ 2 then 1 else 0) + (y : Int) + era * 400, month, r - daysBeforeMonth m + 1)

/-! ## Reading -/

def leastYear : Int := -262143

def greatestYear : Int := 262142

def number? (most : Nat) (s : List Char) : Option (Nat × List Char) :=
  let ds := (s.take most).takeWhile Char.isDigit
  if ds.isEmpty then none else some (ds.foldl (fun n c => n * 10 + (c.toNat - '0'.toNat)) 0, s.drop ds.length)

def year? (s : List Char) : Option (Int × List Char) :=
  match s with
  | '-' :: rest => (number? rest.length rest).map fun (n, rest) => (-(n : Int), rest)
  | '+' :: rest => (number? rest.length rest).map fun (n, rest) => ((n : Int), rest)
  | _ => (number? 4 s).map fun (n, rest) => ((n : Int), rest)

def mark? (c : Char) (s : List Char) : Option (List Char) :=
  match trimStart s with
  | x :: rest => if x = c then some rest else none
  | [] => none

def twoDigits? (s : List Char) : Option (Nat × List Char) := number? 2 (trimStart s)

def fraction? (s : List Char) : Option (Nat × List Char) :=
  match s with
  | '.' :: rest =>
    (number? 9 rest).map fun (n, more) =>
      (n * Nat.pow 10 (9 - (rest.length - more.length)), more.dropWhile Char.isDigit)
  | _ => some (0, s)

def offset? (s : List Char) : Option (Int × List Char) :=
  match s with
  | [] => none
  | c :: rest =>
    if c = 'Z' ∨ c = 'z' then some (0, rest)
    else if (s.take 3).map Char.toLower = ['u', 't', 'c'] then some (0, s.drop 3)
    else if c = '+' ∨ c = '-' ∨ c = '\u2212' then
      match rest with
      | h1 :: h2 :: rest =>
        match rest.dropWhile fun c => c = ':' || isBlank c with
        | m1 :: m2 :: rest =>
          if [h1, h2, m1, m2].all Char.isDigit then do
            let (hours, _) ← number? 2 [h1, h2]
            let (minutes, _) ← number? 2 [m1, m2]
            if 24 ≤ hours ∨ 60 ≤ minutes then none
            let n : Int := hours * 3600 + minutes * 60
            return (if c = '+' then n else -n, rest)
          else none
        | _ => none
      | _ => none
    else none

/-- The moment of a date and a time of day that differ from universal time by an offset. -/
def ofLocal? (year : Int) (month day hour minute second nano : Nat) (offset : Int) : Option Timestamp :=
  if leastYear ≤ year ∧ year ≤ greatestYear ∧ 1 ≤ month ∧ month ≤ 12 ∧ 1 ≤ day ∧ day ≤ daysInMonth year month ∧
      hour ≤ 23 ∧ minute ≤ 59 ∧ second ≤ 60 then
    let seconds : Int := hour * 3600 + minute * 60 + min second 59 - offset
    let day := dayOf year month day + seconds / daySeconds
    let (shown, _) := dateOf day
    if leastYear ≤ shown ∧ shown ≤ greatestYear then
      some ⟨day, (seconds % daySeconds).toNat, if second = 60 then nano + nanosPerSecond else nano⟩
    else none
  else none

def ofText? (text : String) : Option Timestamp := do
  let (year, s) ← year? (trimStart text.toList)
  let (month, s) ← twoDigits? (← mark? '-' s)
  let (day, s) ← twoDigits? (← mark? '-' s)
  match s with
  | [] => none
  | c :: s =>
    if c ≠ 't' ∧ c ≠ 'T' ∧ c ≠ ' ' then none
    let (hour, s) ← twoDigits? s
    let (minute, s) ← twoDigits? (← mark? ':' s)
    let (second, s) ← twoDigits? (← mark? ':' s)
    let (nano, s) ← fraction? s
    let (offset, s) ← offset? (trimStart s)
    if !(trimStart s).isEmpty then none
    ofLocal? year month day hour minute second nano offset

/-! ## Writing -/

def padded (width n : Nat) : String :=
  let ds := Nat.toDigits 10 n
  String.ofList (List.replicate (width - ds.length) '0' ++ ds)

def yearText (y : Int) : String :=
  if 0 ≤ y ∧ y ≤ 9999 then padded 4 y.toNat else (if 0 ≤ y then "+" else "-") ++ padded 4 y.natAbs

def fractionText (nano : Nat) : String :=
  if nano = 0 then ""
  else if nano % 1000000 = 0 then "." ++ padded 3 (nano / 1000000)
  else if nano % 1000 = 0 then "." ++ padded 6 (nano / 1000)
  else "." ++ padded 9 nano

def clockText (t : Timestamp) : String :=
  let (year, month, day) := dateOf t.day
  let leap := t.nano / nanosPerSecond
  yearText year ++ "-" ++ padded 2 month ++ "-" ++ padded 2 day ++ "T" ++ padded 2 (t.second / 3600) ++ ":" ++
    padded 2 (t.second / 60 % 60) ++ ":" ++ padded 2 (t.second % 60 + leap) ++
    fractionText (t.nano % nanosPerSecond)

def text (t : Timestamp) : String := t.clockText ++ "Z"

end Timestamp

end Interlink
