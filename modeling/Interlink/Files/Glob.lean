/-!
# Patterns of paths

Patterns as ignore files have them, matched with the octets of a whole path. A slash is matched by a slash,
by a range of octets and by two stars, and by nothing else.
-/

namespace Interlink

inductive GlobPart where
  | octet (b : UInt8)
  | any
  | many
  | range (negated : Bool) (ranges : List (UInt8 × UInt8))
  /-- The directories before a path. -/
  | anywhere
  /-- The directories between two parts of a path. -/
  | between
  /-- Everything inside a directory. -/
  | inside
  | choice (alternatives : List (List GlobPart))

abbrev Glob := List GlobPart

namespace Glob

def slash : UInt8 := 47

/-! ## Matching -/

def ends : List UInt8 → List (List UInt8)
  | [] => [[]]
  | b :: bs => (b :: bs) :: ends bs

/-- What may be left after any number of octets that are no slash. -/
def withinName : List UInt8 → List (List UInt8)
  | [] => [[]]
  | b :: bs => if b = slash then [b :: bs] else (b :: bs) :: withinName bs

def afterSlashes : List UInt8 → List (List UInt8)
  | [] => []
  | b :: bs => if b = slash then bs :: afterSlashes bs else afterSlashes bs

def afterOctet (p : UInt8 → Bool) : List UInt8 → List (List UInt8)
  | [] => []
  | b :: bs => if p b then [bs] else []

mutual

def partRests : GlobPart → List UInt8 → List (List UInt8)
  | .octet b, path => afterOctet (· = b) path
  | .any, path => afterOctet (· ≠ slash) path
  | .many, path => withinName path
  | .range negated ranges, path => afterOctet (fun b => (ranges.any fun r => r.1 ≤ b && b ≤ r.2) ≠ negated) path
  | .anywhere, path => path :: afterSlashes path
  | .between, path => (afterOctet (· = slash) path).flatMap fun rest => rest :: afterSlashes rest
  | .inside, path => (afterOctet (· = slash) path).flatMap ends
  | .choice alternatives, path => choiceRests alternatives path

def rests : List GlobPart → List UInt8 → List (List UInt8)
  | [], path => [path]
  | p :: ps, path => ((partRests p path).flatMap (rests ps)).eraseDups

def choiceRests : List (List GlobPart) → List UInt8 → List (List UInt8)
  | [], _ => []
  | a :: as, path => rests a path ++ choiceRests as path

end

def accepts (g : Glob) (path : String) : Bool := (rests g path.toUTF8.toList).any List.isEmpty

/-! ## Reading -/

def octets (c : Char) : List UInt8 := (String.ofList [c]).toUTF8.toList

def literal (c : Char) : List GlobPart := (octets c).map .octet

/-- The characters of a range up to its closing bracket, which may also come first, and the rest. A dash
between two of them stands for all that lie between. -/
def rangeItems? (first : Bool) (dash : Bool) (items : List (Char × Char)) :
    List Char → Option (List (Char × Char) × List Char)
  | [] => none
  | c :: rest =>
    if c = ']' && !first then some ((if dash then ('-', '-') :: items else items), rest)
    else if c = '-' && !first && !dash then rangeItems? false true items rest
    else
      match dash, items with
      | true, (a, _) :: more => if c < a then none else rangeItems? false false ((a, c) :: more) rest
      | _, _ => rangeItems? false false ((c, c) :: items) rest

def octetRanges? (item : Char × Char) : Option (List (UInt8 × UInt8)) :=
  let single (b : UInt8) : UInt8 × UInt8 := (b, b)
  if item.1 = item.2 then some ((octets item.1).map single)
  else
    match (octets item.1).getLast?, octets item.2 with
    | some a, b :: more =>
      if b < a then none else some ((octets item.1).dropLast.map single ++ (a, b) :: more.map single)
    | _, _ => none

def range? (s : List Char) : Option (GlobPart × List Char) := do
  let (negated, s) := match s with
    | '!' :: rest => (true, rest)
    | '^' :: rest => (true, rest)
    | _ => (false, s)
  let (items, rest) ← rangeItems? true false [] s
  return (.range negated (← items.mapM octetRanges?).flatten, rest)

/-- An open brace: the parts before it and the alternatives so far, each from its last part on. -/
structure Brace where
  before : List GlobPart
  alternatives : List (List GlobPart)

/-- The parts with a choice among alternatives in front, those that are not empty. -/
def Brace.close (b : Brace) (last : List GlobPart) : List GlobPart :=
  match (last :: b.alternatives).filter (!·.isEmpty) with
  | [] => b.before
  | as => .choice (as.map List.reverse) :: b.before

/-- The parts for two stars after others, and whether a slash that comes next belongs to them. -/
def twoStars (before : Option Char) (braced : Bool) (parts : List GlobPart) (rest : List Char) :
    List GlobPart × Bool :=
  let slashNext := rest.head? = some '/'
  let apart (p : GlobPart) : List GlobPart :=
    match parts with
    | .anywhere :: _ => parts
    | .inside :: _ => parts
    | _ => p :: parts.tail
  if parts.isEmpty then if rest.isEmpty || slashNext then ([.anywhere], slashNext) else ([.many], false)
  else if before ≠ some '/' then (.many :: parts, false)
  else if slashNext then (apart .between, true)
  else if rest.isEmpty || (braced && (rest.head? = some ',' || rest.head? = some '\x7d')) then
    (apart .inside, false)
  else (.many :: parts, false)

/-- The pattern that begins with `parts`, of which the last one comes first. -/
def readFrom : Nat → Option Char → List Brace → List GlobPart → List Char → Option Glob
  | 0, _, _, _, _ => none
  | fuel + 1, before, braces, parts, s =>
    match s with
    | [] => if braces.isEmpty then some parts.reverse else none
    | '?' :: rest => readFrom fuel (some '?') braces (.any :: parts) rest
    | '*' :: '*' :: rest =>
      let (parts, slashed) := twoStars before (!braces.isEmpty) parts rest
      if slashed then readFrom fuel (some '/') braces parts (rest.drop 1)
      else readFrom fuel (some '*') braces parts rest
    | '*' :: rest => readFrom fuel (some '*') braces (.many :: parts) rest
    | '[' :: rest => do
      let (p, rest) ← range? rest
      readFrom fuel (some ']') braces (p :: parts) rest
    | '\x7b' :: rest => readFrom fuel (some '\x7b') (⟨parts, []⟩ :: braces) [] rest
    | '\x7d' :: rest =>
      match braces with
      | b :: braces => readFrom fuel (some '\x7d') braces (b.close parts) rest
      | [] => none
    | '\\' :: c :: rest => readFrom fuel (some c) braces ((literal c).reverse ++ parts) rest
    | '\\' :: [] => none
    | c :: rest =>
      match braces with
      | b :: more =>
        if c = ',' then
          readFrom fuel (some ',') ({ b with alternatives := parts :: b.alternatives } :: more) [] rest
        else readFrom fuel (some c) braces ((literal c).reverse ++ parts) rest
      | [] => readFrom fuel (some c) braces ((literal c).reverse ++ parts) rest

def ofText? (s : List Char) : Option Glob := readFrom (s.length + 1) none [] [] s

end Glob

end Interlink
