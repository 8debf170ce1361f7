import Interlink.Yaml.Token

/-!
# Layout

The tokens of a text, with marks for the blocks that its indentation makes. That a word is a key is known
only from the colon after it, so a word that may be one is kept in mind until the line is over.
-/

namespace Interlink.Yaml

structure KeyStart where
  /-- The number of tokens before it. -/
  number : Nat
  /-- Whether nothing but a key may stand there. -/
  required : Bool
  place : Place

structure Layout where
  place : Place
  /-- The columns of the open blocks, the innermost first. -/
  levels : List Nat := []
  keyAllowed : Bool := true
  key? : Option KeyStart := none
  outer : List (Option KeyStart) := []
  /-- The tokens so far, the last one first. -/
  reversed : List Token := []
  count : Nat := 0

namespace Layout

/-- Whether a place is inside brackets, where columns do not count. -/
def isFlow (l : Layout) : Bool := !l.outer.isEmpty

def push (l : Layout) (t : Token) : Layout := { l with reversed := t :: l.reversed, count := l.count + 1 }

def insertAt (l : Layout) (number : Nat) (t : Token) : Layout :=
  let later := l.count - number
  { l with reversed := l.reversed.take later ++ t :: l.reversed.drop later, count := l.count + 1 }

def pass (l : Layout) (t : Token) (p : Place) : Layout := { l.push t with place := p }

def least (l : Layout) : Nat :=
  match l.levels with
  | n :: _ => n + 1
  | [] => 0

/-! ## Blocks -/

def openBlock (l : Layout) (column number : Nat) (t : Token) : Layout :=
  if l.isFlow || column < l.least then l else { l.insertAt number t with levels := column :: l.levels }

def closeBlocks (column? : Option Nat) (l : Layout) : Layout :=
  if l.isFlow then l
  else
    let closed := l.levels.takeWhile fun n => column?.all (· < n)
    { closed.foldl (fun l _ => l.push .blockEnd) l with levels := l.levels.drop closed.length }

/-! ## Keys -/

/-- Forgets the key that might have begun; there must be one if it is required. -/
def dropKey? (l : Layout) : Option Layout :=
  if l.key?.any (·.required) then none else some { l with key? := none }

def markKey? (l : Layout) : Option Layout :=
  if l.keyAllowed then do
    let l ← l.dropKey?
    return { l with key? := some ⟨l.count, !l.isFlow && l.levels.head? = some l.place.column, l.place⟩ }
  else some l

/-- Whether a key that began there would be too long, or more than a line. -/
def isStale (l : Layout) (k : KeyStart) : Bool :=
  k.place.line < l.place.line || k.place.index + 1024 < l.place.index

def keys (l : Layout) : List KeyStart := (l.key? :: l.outer).filterMap id

def dropStale? (l : Layout) : Option Layout :=
  if l.keys.any fun k => l.isStale k && k.required then none
  else some { l with
    key? := l.key?.filter (!l.isStale ·)
    outer := l.outer.map (·.filter (!l.isStale ·)) }

/-! ## The next token -/

/-- Past blanks, comments and empty lines, and whether a key may stand there. -/
def gapFrom (flow : Bool) : Nat → Bool → Place → Bool × Place
  | 0, allowed, p => (allowed, p)
  | fuel + 1, allowed, p =>
    let p := p.skipWhile fun c => c = ' ' || (c = '\t' && (flow || !allowed))
    let p := if p.head? = some '#' then p.skipWhile (!isBreak ·) else p
    match p.break? with
    | some (_, q) => gapFrom flow fuel (allowed || !flow) q
    | none => (allowed, p)

def next? (l : Layout) : Option Layout := do
  let (keyAllowed, place) := gapFrom l.isFlow (l.place.rest.length + 1) l.keyAllowed l.place
  let l ← { l with keyAllowed, place }.dropStale?
  return l.closeBlocks (some place.column)

def bracket? (t : Token) (l : Layout) : Option Layout := do
  let l ← l.markKey?
  return { l.pass t (l.place.skip 1) with key? := none, outer := l.key? :: l.outer, keyAllowed := true }

def endBracket? (t : Token) (l : Layout) : Option Layout := do
  let l ← l.dropKey?
  let l := { l.pass t (l.place.skip 1) with keyAllowed := false }
  match l.outer with
  | key? :: outer => return { l with key?, outer }
  | [] => return l

def blockMark? (t block : Token) (l : Layout) : Option Layout :=
  if l.isFlow then some (l.pass t (l.place.skip 1))
  else if l.keyAllowed then some ((l.openBlock l.place.column l.count block).pass t (l.place.skip 1))
  else none

def item? (l : Layout) : Option Layout := do
  let l ← l.blockMark? .item .blockSequence
  let l ← l.dropKey?
  return { l with keyAllowed := true }

def explicitKey? (l : Layout) : Option Layout := do
  let l ← l.blockMark? .key .blockMapping
  let l ← l.dropKey?
  return { l with keyAllowed := !l.isFlow }

def value? (l : Layout) : Option Layout :=
  match l.key? with
  | some k =>
    let l := (l.insertAt k.number .key).openBlock k.place.column k.number .blockMapping
    some { l.pass .value (l.place.skip 1) with key? := none, keyAllowed := false }
  | none => do
    let l ← l.blockMark? .value .blockMapping
    return { l with keyAllowed := !l.isFlow }

def word? (l : Layout) (read : Place → Option (Token × Place)) : Option Layout := do
  let l ← l.markKey?
  let (t, p) ← read l.place
  return { l.pass t p with keyAllowed := false }

def plainWord? (l : Layout) : Option Layout := do
  let l ← l.markKey?
  let r ← plain? l.isFlow l.least l.place
  return { l.pass (.scalar (String.ofList r.text) true) r.after with keyAllowed := r.endsLine }

def blockWord? (l : Layout) : Option Layout := do
  let l ← l.dropKey?
  let (text, p) ← block? l.levels.head? l.place
  return { l.pass (.scalar (String.ofList text) false) p with keyAllowed := true }

def documentLine? (l : Layout) (read : Place → Option (Token × Place)) : Option Layout := do
  let l ← (l.closeBlocks none).dropKey?
  let (t, p) ← read l.place
  return { l.pass t p with keyAllowed := false }

def indicators : List Char :=
  ['-', '?', ':', ',', '[', ']', '\x7b', '\x7d', '#', '&', '*', '!', '|', '>', '\x27', '\x22', '%', '@', '\x60']

def beginsPlain (flow : Bool) (c : Char) (rest : List Char) : Bool :=
  !(isBlank c || isBreak c || indicators.contains c) || (c = '-' && !rest.head?.any isBlank) ||
    (!flow && (c = '?' || c = ':') && !Place.isGap rest)

def token? (l : Layout) (c : Char) (rest : List Char) : Option Layout :=
  let p := l.place
  let spaced := Place.isGap rest
  if p.column = 0 && c = '%' then l.documentLine? directive?
  else if p.atMark then l.documentLine? fun p => some (if c = '-' then .documentStart else .documentEnd, p.skip 3)
  else if c = '[' then l.bracket? .openList
  else if c = '\x7b' then l.bracket? .openMap
  else if c = ']' then l.endBracket? .closeList
  else if c = '\x7d' then l.endBracket? .closeMap
  else if c = ',' then do
    let l ← l.dropKey?
    return { l.pass .comma (p.skip 1) with keyAllowed := true }
  else if c = '-' && spaced then l.item?
  else if c = '?' && (l.isFlow || spaced) then l.explicitKey?
  else if c = ':' && (l.isFlow || spaced) then l.value?
  else if c = '*' then l.word? fun p => (name? rest).map fun (n, s) => (.alias n, p.upTo s)
  else if c = '&' then l.word? fun p => (name? rest).map fun (n, s) => (.anchor n, p.upTo s)
  else if c = '!' then l.word? fun p => (tag? l.isFlow p.rest).map fun (t, s) => (t, p.upTo s)
  else if (c = '|' || c = '>') && !l.isFlow then l.blockWord?
  else if c = '\x27' || c = '\x22' then
    l.word? fun p => (quoted? p).map fun (s, q) => (.scalar (String.ofList s) false, q)
  else if beginsPlain l.isFlow c rest then l.plainWord?
  else none

def finish? (l : Layout) : Option Layout := do
  let l ← (l.closeBlocks none).dropKey?
  return l.push .done

def settled (l : Layout) : List Token := l.reversed.reverse.take (l.keys.foldl (fun n k => min n k.number) l.count)

def run : Nat → Layout → List Token
  | 0, l => l.settled
  | fuel + 1, l =>
    match l.next? with
    | none => l.settled
    | some n =>
      match n.place.rest with
      | [] =>
        match n.finish? with
        | some e => e.reversed.reverse
        | none => l.settled
      | c :: rest =>
        match n.token? c rest with
        | some m => run fuel m
        | none => l.settled

end Layout

/-- The tokens of a text; `done` is the last one if the text has no fault. -/
def Token.ofText (s : List Char) : List Token :=
  if s.all isAllowed then Layout.run (s.length + 1) { place := .ofText s } else []

end Interlink.Yaml
