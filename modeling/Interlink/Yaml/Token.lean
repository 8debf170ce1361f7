import Interlink.Yaml.Scalar

/-!
# Tokens

The words and marks of a YAML document. A token is read at its place alone; which of them belong together
is found by the indentation.
-/

namespace Interlink.Yaml

inductive Token where
  | version (major minor : Nat)
  | handle (name tagStart : String)
  | documentStart
  | documentEnd
  | blockSequence
  | blockMapping
  | blockEnd
  | openList
  | closeList
  | openMap
  | closeMap
  | item
  | comma
  | key
  | value
  | alias (name : String)
  | anchor (name : String)
  | tag (handle rest : String)
  | scalar (text : String) (plain : Bool)
  | done
deriving DecidableEq, Repr

def isWord (c : Char) : Bool := c.isAlphanum || c = '_' || c = '-'

/-! ## Names and tags -/

def name? (s : List Char) : Option (String × List Char) :=
  match s.takeWhile isWord, s.dropWhile isWord with
  | [], _ => none
  | name, rest =>
    if Place.isGap rest || rest.head?.any ['?', ':', ',', ']', '\x7d', '%', '@', '\x60'].contains then
      some (String.ofList name, rest)
    else none

def octetCount? (n : Nat) : Option Nat :=
  if n < 0x80 then some 1 else if n < 0xC0 then none else if n < 0xE0 then some 2 else if n < 0xF0 then some 3
  else if n < 0xF8 then some 4 else none

/-- `n` more octets of a character, of which `code` has been read. -/
def moreOctets? : Nat → Nat → List Char → Option (Char × List Char)
  | 0, code, s => some (Char.ofNat code, s)
  | n + 1, code, s =>
    match s with
    | '%' :: s => do
      let (octet, s) ← Numeral.first? 16 2 s
      guard (octet / 0x40 = 2)
      moreOctets? n (code * 0x40 + octet % 0x40) s
    | _ => none

def octets? (s : List Char) : Option (Char × List Char) := do
  let (octet, s) ← Numeral.first? 16 2 (s.drop 1)
  let n ← octetCount? octet
  moreOctets? (n - 1) (if n = 1 then octet else octet % Nat.pow 2 (7 - n)) s

def isTagChar (verbatim : Bool) (c : Char) : Bool :=
  isWord c || [';', '/', '?', ':', '@', '&', '=', '+', '$', '.', '!', '~', '*', '\x27', '(', ')'].contains c ||
    (verbatim && [',', '[', ']'].contains c)

def tagText? (verbatim : Bool) : Nat → List Char → Option (List Char × List Char)
  | 0, _ => none
  | fuel + 1, s =>
    match s with
    | '%' :: _ => do
      let (c, s) ← octets? s
      (tagText? verbatim fuel s).map fun (t, s) => (c :: t, s)
    | c :: rest =>
      if isTagChar verbatim c then (tagText? verbatim fuel rest).map fun (t, s) => (c :: t, s) else some ([], s)
    | [] => some ([], [])

def tagText1? (verbatim : Bool) (s : List Char) : Option (List Char × List Char) := do
  let (t, s) ← tagText? verbatim (s.length + 1) s
  if t.isEmpty then none else some (t, s)

/-- An exclamation mark with what belongs to it, which may be a whole handle. -/
def tagHandle? (s : List Char) : Option (List Char × List Char) :=
  match s with
  | '!' :: rest =>
    let word := rest.takeWhile isWord
    match rest.dropWhile isWord with
    | '!' :: rest => some ('!' :: word ++ ['!'], rest)
    | rest => some ('!' :: word, rest)
  | _ => none

def tagParts? (s : List Char) : Option (List Char × List Char × List Char) :=
  match s with
  | '!' :: '<' :: s => do
    let (t, s) ← tagText1? true s
    match s with
    | '>' :: s => some ([], t, s)
    | _ => none
  | s => do
    let (h, s) ← tagHandle? s
    if 1 < h.length && h.getLast? = some '!' then
      let (t, s) ← tagText1? false s
      return (h, t, s)
    else
      let (t, s) ← tagText? false (s.length + 1) s
      let t := h.drop 1 ++ t
      return if t.isEmpty then ([], h, s) else (['!'], t, s)

def tag? (flow : Bool) (s : List Char) : Option (Token × List Char) := do
  let (h, t, s) ← tagParts? s
  guard (Place.isGap s || (flow && s.head? = some ','))
  return (.tag (String.ofList h) (String.ofList t), s)

/-! ## Directives -/

def versionNumber? (s : List Char) : Option (Nat × List Char) :=
  let digits := s.takeWhile Char.isDigit
  if digits.isEmpty || 9 < digits.length then none
  else some (digits.foldl (fun n c => n * 10 + (c.toNat - '0'.toNat)) 0, s.dropWhile Char.isDigit)

def version? (s : List Char) : Option (Token × List Char) := do
  let (major, s) ← versionNumber? (s.dropWhile isBlank)
  match s with
  | '.' :: s =>
    let (minor, s) ← versionNumber? s
    return (.version major minor, s)
  | _ => none

def handle? (s : List Char) : Option (Token × List Char) := do
  let (h, s) ← tagHandle? (s.dropWhile isBlank)
  guard (h.length = 1 || h.getLast? = some '!')
  guard (s.head?.any isBlank)
  let (t, s) ← tagText1? true (s.dropWhile isBlank)
  guard (Place.isGap s)
  return (.handle (String.ofList h) (String.ofList t), s)

def directive? (p : Place) : Option (Token × Place) := do
  let s := p.rest.drop 1
  let name := s.takeWhile isWord
  let rest := s.dropWhile isWord
  guard (Place.isGap rest)
  let (t, rest) ← match String.ofList name with
    | "YAML" => version? rest
    | "TAG" => handle? rest
    | _ => none
  return (t, ← (p.upTo rest).lineEnd?)

end Interlink.Yaml
