/-!
# Places in a YAML text

How far a text has been read, and the characters that matter between words: blanks and line breaks.
-/

namespace Interlink.Yaml

def isBlank (c : Char) : Bool := c = ' ' || c = '\t'

def isSeparator (c : Char) : Bool := c = '\u2028' || c = '\u2029'

def isBreak (c : Char) : Bool := c = '\n' || c = '\r' || c = '\u0085' || isSeparator c

def isAllowed (c : Char) : Bool :=
  c = '\t' || c = '\n' || c = '\r' || (' ' ≤ c && c ≤ '~') || c = '\u0085' ||
    ('\u00A0' ≤ c && c ≠ '\uFFFE' && c ≠ '\uFFFF')

/-- What is left of a text, and where that begins: counted from the start, by lines and within its line. -/
structure Place where
  rest : List Char
  index : Nat
  line : Nat
  column : Nat

namespace Place

def ofText (s : List Char) : Place :=
  match s with
  | '\uFEFF' :: rest => ⟨rest, 1, 0, 1⟩
  | _ => ⟨s, 0, 0, 0⟩

def head? (p : Place) : Option Char := p.rest.head?

def skip (p : Place) (n : Nat) : Place := ⟨p.rest.drop n, p.index + n, p.line, p.column + n⟩

def upTo (p : Place) (rest : List Char) : Place := p.skip (p.rest.length - rest.length)

/-- Past the longest run of characters that satisfy `f`, none of which is a break. -/
def skipWhile (f : Char → Bool) (p : Place) : Place := p.skip (p.rest.takeWhile f).length

def break? (p : Place) : Option (Char × Place) :=
  match p.rest with
  | '\r' :: '\n' :: rest => some ('\n', ⟨rest, p.index + 2, p.line + 1, 0⟩)
  | c :: rest =>
    if isBreak c then some (if isSeparator c then c else '\n', ⟨rest, p.index + 1, p.line + 1, 0⟩) else none
  | [] => none

def isGap : List Char → Bool
  | c :: _ => isBlank c || isBreak c
  | [] => true

/-- Whether the line consists of one of the marks between documents, or begins with one and a blank. -/
def atMark (p : Place) : Bool :=
  p.column = 0 &&
    match p.rest with
    | '-' :: '-' :: '-' :: rest => isGap rest
    | '.' :: '.' :: '.' :: rest => isGap rest
    | _ => false

/-- Past the blanks and the comment that a line may end with; nothing else may be left of it. -/
def lineEnd? (p : Place) : Option Place :=
  let p := p.skipWhile isBlank
  let p := if p.head? = some '#' then p.skipWhile (!isBreak ·) else p
  match p.break? with
  | some (_, next) => some next
  | none => if p.rest.isEmpty then some p else none

end Place

/-! ## Gaps -/

structure Gap where
  blanks : List Char
  breaks : List Char

/-- What a gap means: one break is a space, of several all but the first one count. -/
def Gap.folded (g : Gap) : List Char :=
  match g.breaks with
  | [] => g.blanks
  | ['\n'] => [' ']
  | '\n' :: more => more
  | breaks => breaks

def Gap.hasBreak (g : Gap) : Bool := !g.breaks.isEmpty

/-- A gap that begins with `g`. From the second line on no tab may stand left of the column `least`. -/
def Place.gapFrom? (least : Nat) : Nat → Gap → Place → Option (Gap × Place)
  | 0, _, _ => none
  | fuel + 1, g, p =>
    match p.break? with
    | some (c, q) => gapFrom? least fuel { g with breaks := g.breaks ++ [c] } q
    | none =>
      match p.head? with
      | some c =>
        if !isBlank c then some (g, p)
        else if !g.hasBreak then gapFrom? least fuel { g with blanks := g.blanks ++ [c] } (p.skip 1)
        else if c = '\t' && p.column < least then none
        else gapFrom? least fuel g (p.skip 1)
      | none => some (g, p)

def Place.gap? (least : Nat) (p : Place) : Option (Gap × Place) := p.gapFrom? least (p.rest.length + 1) ⟨[], []⟩

end Interlink.Yaml
