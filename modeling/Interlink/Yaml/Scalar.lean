import Interlink.Number.Numeral
import Interlink.Yaml.Place

/-!
# Scalars

The texts in a YAML document: plain, in quotes, or as a block of lines.
-/

namespace Interlink.Yaml

/-! ## Texts in quotes -/

def escapes : List (Char × Char) :=
  [('0', '\x00'), ('a', '\x07'), ('b', '\x08'), ('t', '\t'), ('\t', '\t'), ('n', '\n'), ('v', '\x0B'),
    ('f', '\x0C'),
   ('r', '\r'), ('e', '\x1B'), (' ', ' '), ('\x22', '\x22'), ('/', '/'), ('\\', '\\'), ('N', '\u0085'),
   ('_', '\u00A0'), ('L', '\u2028'), ('P', '\u2029')]

def codeLengths : List (Char × Nat) := [('x', 2), ('u', 4), ('U', 8)]

def escape? : List Char → Option (Char × List Char)
  | [] => none
  | c :: rest =>
    match escapes.lookup c with
    | some e => some (e, rest)
    | none => do
      let (code, rest) ← Numeral.first? 16 (← codeLengths.lookup c) rest
      if h : code.isValidChar then return (Char.ofNatAux code h, rest) else none

def quotedFrom (quote : Char) : Nat → Place → Option (List Char × Place)
  | 0, _ => none
  | fuel + 1, p =>
    let read (s : List Char) (p : Place) := (quotedFrom quote fuel p).map fun (t, q) => (s ++ t, q)
    if p.atMark then none
    else
      match p.rest with
      | [] => none
      | c :: rest =>
        if isBlank c || isBreak c then do
          let (g, p) ← p.gap? 0
          read g.folded p
        else if c = quote then
          if quote = '\x27' && rest.head? = some quote then read [quote] (p.skip 2) else some ([], p.skip 1)
        else if c = '\\' && quote = '\x22' then
          match (p.skip 1).break? with
          | some (_, p) => do
            -- a break after a backslash and the blanks after it count for nothing
            let (g, p) ← p.gap? 0
            read g.breaks p
          | none => do
            let (e, rest) ← escape? rest
            read [e] (p.upTo rest)
        else read [c] (p.skip 1)

def quoted? (p : Place) : Option (List Char × Place) := do
  quotedFrom (← p.head?) (p.rest.length + 1) (p.skip 1)

/-! ## Plain texts -/

def isFlowMark (c : Char) : Bool := [',', '[', ']', '\x7b', '\x7d'].contains c

/-- The characters of a plain text up to the next gap; inside brackets a colon may not meet a mark. -/
def plainRun? (flow : Bool) : List Char → Option (List Char)
  | [] => some []
  | c :: rest =>
    if isBlank c || isBreak c || (flow && isFlowMark c) then some []
    else if c = ':' && Place.isGap rest then some []
    else if c = ':' && flow && rest.head?.any fun d => d = '?' || isFlowMark d then none
    else (plainRun? flow rest).map (c :: ·)

structure PlainText where
  text : List Char
  endsLine : Bool
  after : Place

/-- A plain text from a place on; its lines after the first start at the column `least` or further right. -/
def plainFrom (flow : Bool) (least : Nat) : Nat → Place → Option PlainText
  | 0, _ => none
  | fuel + 1, p =>
    if p.atMark || p.head? = some '#' then some ⟨[], false, p⟩
    else do
      let run ← plainRun? flow p.rest
      let p := p.skip run.length
      let (g, next) ← p.gap? least
      if g.blanks.isEmpty && !g.hasBreak then return ⟨run, false, p⟩
      if !flow && next.column < least then return ⟨run, g.hasBreak, next⟩
      let more ← plainFrom flow least fuel next
      if more.text.isEmpty then return ⟨run, g.hasBreak, more.after⟩
      return { more with text := run ++ g.folded ++ more.text }

def plain? (flow : Bool) (least : Nat) (p : Place) : Option PlainText :=
  plainFrom flow least (p.rest.length + 1) p

/-! ## Blocks of lines -/

inductive Chomping where
  | strip
  | clip
  | keep

/-- The first digit of a text where it is one, which is not zero. -/
def indentation? (s : List Char) : Option (Option Nat × List Char) :=
  match s with
  | c :: rest => if c = '0' then none else if c.isDigit then some (some (c.toNat - '0'.toNat), rest)
    else some (none, s)
  | [] => some (none, [])

def chomping? (s : List Char) : Option (Chomping × List Char) :=
  match s with
  | '+' :: rest => some (.keep, rest)
  | '-' :: rest => some (.strip, rest)
  | _ => none

def blockHeader? (s : List Char) : Option (Chomping × Option Nat × List Char) :=
  match chomping? s with
  | some (c, s) => (indentation? s).map fun (n, s) => (c, n, s)
  | none => (indentation? s).map fun (n, s) =>
    match n, chomping? s with
    | some _, some (c, s) => (c, n, s)
    | _, _ => (.clip, n, s)

structure EmptyLines where
  breaks : List Char
  widest : Nat
  after : Place

/-- Past empty lines and the blanks before the next one, as far as the indentation goes. -/
def emptyLines? (indent? : Option Nat) : Nat → Nat → Place → Option EmptyLines
  | 0, _, _ => none
  | fuel + 1, widest, p =>
    let spaces := (p.rest.takeWhile (· = ' ')).length
    let p := p.skip (match indent? with
      | some n => min spaces (n - p.column)
      | none => spaces)
    let widest := max widest p.column
    if p.head? = some '\t' && indent?.all fun n => p.column < n then none
    else
      match p.break? with
      | some (c, next) => (emptyLines? indent? fuel widest next).map fun e => { e with breaks := c :: e.breaks }
      | none => some ⟨[], widest, p⟩

structure BlockLine where
  text : List Char
  ending? : Option Char
  breaks : List Char

def BlockLine.isIndented (l : BlockLine) : Bool := l.text.head?.any isBlank

def blockLines? (indent : Nat) : Nat → Place → Option (List BlockLine × Place)
  | 0, _ => none
  | fuel + 1, p =>
    if p.column ≠ indent || p.rest.isEmpty then some ([], p)
    else do
      let text := p.rest.takeWhile (!isBreak ·)
      let p := p.skip text.length
      let (ending?, p) := match p.break? with
        | some (c, q) => (some c, q)
        | none => (none, p)
      let empty ← emptyLines? (some indent) (p.rest.length + 1) 0 p
      let (more, p) ← blockLines? indent fuel empty.after
      return (⟨text, ending?, empty.breaks⟩ :: more, p)

/-- What stands between two lines of a block: where lines are folded, a space for a single break. -/
def lineGap (folds : Bool) (a b : BlockLine) : List Char :=
  let folds := folds && a.ending? = some '\n' && !a.isIndented && !b.isIndented
  (if !folds then a.ending?.toList else if a.breaks.isEmpty then [' '] else []) ++ a.breaks

def blockText (folds : Bool) (chomping : Chomping) : List BlockLine → List Char
  | [] => []
  | [l] =>
    l.text ++ match chomping with
      | .strip => []
      | .clip => l.ending?.toList
      | .keep => l.ending?.toList ++ l.breaks
  | a :: b :: rest => a.text ++ lineGap folds a b ++ blockText folds chomping (b :: rest)

/-- The block at a place, where the collection around it has the indentation `outer?`, and the
place after it. -/
def block? (outer? : Option Nat) (p : Place) : Option (List Char × Place) := do
  let folds := p.head? = some '>'
  let (chomping, indent?, rest) ← blockHeader? (p.rest.drop 1)
  let p ← (p.upTo rest).lineEnd?
  let indent? := indent?.map fun n => outer?.getD 0 + n
  let first ← emptyLines? indent? (p.rest.length + 1) 0 p
  let least := match outer? with
    | some n => n + 1
    | none => 1
  let (lines, after) ← blockLines? (indent?.getD (max first.widest least))
    (first.after.rest.length + 1) first.after
  match lines, chomping with
  | [], .keep => return (first.breaks, after)
  | [], _ => return ([], after)
  | lines, chomping => return (first.breaks ++ blockText folds chomping lines, after)

end Interlink.Yaml
