import Interlink.Glossary.Definition
import Interlink.Text.Lines

/-!
# Lines of a document

What a single line of a document can be: a fence, a heading, an attribute of a definition, or text with
references in double brackets. Code spans hold no references.
-/

namespace Interlink.Glossary

open Text

/-! ## Fences -/

/-- A run of backticks or tildes that opens a fence. -/
structure Fence where
  mark : Char
  length : Nat
deriving DecidableEq

/-- The run of fence marks that a line begins with, after three spaces at most, and what follows it. -/
def fenceMarker? (line : List Char) : Option (Fence × List Char) :=
  let body := line.dropWhile (· = ' ')
  match body with
  | [] => none
  | c :: _ =>
    let run := body.takeWhile (· = c)
    if line.length - body.length ≤ 3 ∧ (c = '\x60' ∨ c = '~') ∧ 3 ≤ run.length then
      some (⟨c, run.length⟩, trim (body.dropWhile (· = c)))
    else none

/-- Whether a line closes a fence: a run of its mark, at least as long, and nothing else. -/
def Fence.closedBy (f : Fence) (line : List Char) : Bool :=
  match fenceMarker? line with
  | some (g, rest) => g.mark = f.mark && f.length ≤ g.length && rest.isEmpty
  | none => false

/-! ## Code spans -/

def codePieces (line : List Char) : List (List Char) :=
  line.splitBy fun a b => (a = '\x60') = (b = '\x60')

def ticks (piece : List Char) : Nat := if piece.head? = some '\x60' then piece.length else 0

def blankOut (s : List Char) : List Char := s.flatMap fun c => List.replicate c.utf8Size ' '

/-- Blanks the code spans among the pieces. A run opens a span if a later run is just as long, and the
span ends at the next such run; `inside` is the length of the run that opened the current span. -/
def maskPieces (inside : Nat) : List (List Char) → List Char
  | [] => []
  | piece :: rest =>
    if inside ≠ 0 then blankOut piece ++ maskPieces (if ticks piece = inside then 0 else inside) rest
    else if ticks piece ≠ 0 ∧ rest.any (ticks · = ticks piece) then blankOut piece ++ maskPieces (ticks piece) rest
    else piece ++ maskPieces 0 rest

def maskCode (line : List Char) : List Char := maskPieces 0 (codePieces line)

/-! ## References -/

/-- The name between brackets, without the blanks around it; of blanks alone the last one. -/
def bracketName? (s : List Char) : Option (List Char) :=
  match trim s with
  | [] => s.getLast?.map ([·])
  | name => some name

/-- The name of a reference that stands at the very start, with the length of the whole. A bar separates
the name from the text that is shown in its place. -/
def referenceAt? (s : List Char) : Option (List Char × Nat) :=
  match s with
  | '[' :: '[' :: rest =>
    let inner := rest.takeWhile fun c => c ≠ '[' && c ≠ ']'
    match rest.drop inner.length with
    | ']' :: ']' :: _ => (bracketName? (inner.takeWhile (· ≠ '|'))).map (·, inner.length + 4)
    | _ => none
  | _ => none

/-- The names of the references in a text, after its first `skip` characters. -/
def referencesFrom : Nat → List Char → List (List Char)
  | _, [] => []
  | skip + 1, _ :: rest => referencesFrom skip rest
  | 0, c :: rest =>
    match referenceAt? (c :: rest) with
    | some (name, length) => name :: referencesFrom (length - 1) rest
    | none => referencesFrom 0 rest

def references (s : List Char) : List (List Char) := referencesFrom 0 s

/-! ## Headings -/

structure Heading where
  level : Nat
  text : List Char
deriving DecidableEq

def isGap (c : Char) : Bool := c = ' ' || c = '\t'

/-- A heading's text without the run of hashes that may close it. -/
def withoutClosing (s : List Char) : List Char :=
  let body := (s.reverse.dropWhile isGap)
  let hashes := body.takeWhile (· = '#')
  match body.drop hashes.length with
  | c :: rest => if !hashes.isEmpty && isGap c then (rest.dropWhile isGap).reverse else body.reverse
  | [] => body.reverse

def heading? (line : List Char) : Option Heading :=
  let body := line.dropWhile (· = ' ')
  let hashes := body.takeWhile (· = '#')
  let rest := body.drop hashes.length
  if line.length - body.length ≤ 3 ∧ 1 ≤ hashes.length ∧ hashes.length ≤ 6 ∧
      rest.head?.any isGap ∧ 2 ≤ rest.length then
    some ⟨hashes.length, trim (withoutClosing (rest.dropWhile isGap))⟩
  else none

def definedName? (text : List Char) : Option (List Char) :=
  match text with
  | '[' :: '[' :: rest =>
    let inner := rest.takeWhile fun c => c ≠ '[' && c ≠ ']' && c ≠ '|'
    if rest.drop inner.length = [']', ']'] then bracketName? inner else none
  | _ => none

/-! ## Attributes -/

/-- Characters that count as one letter of a keyword: its two cases, the long s and the Kelvin sign. -/
def matchesLetter (letter c : Char) : Bool :=
  c = letter || c = letter.toUpper || (letter = 's' && c = '\u017F') || (letter = 'k' && c = '\u212A')

/-- The rest of a text that begins with a keyword, in whatever case, and the keyword as written. -/
def keywordAt? : List Char → List Char → Option (List Char × List Char)
  | [], s => some ([], s)
  | _ :: _, [] => none
  | k :: ks, c :: rest =>
    if matchesLetter k c then (keywordAt? ks rest).map fun (written, rest) => (c :: written, rest) else none

def attributeKeys : List String := ["kind", "scope", "aliases", "related", "id"]

/-- An attribute of a definition: a list item with a key, in lower case, and a value. -/
structure Attribute where
  key : String
  value : List Char
deriving DecidableEq

def attributeWith? (key : String) (s : List Char) : Option Attribute :=
  match keywordAt? key.toList s with
  | some (written, rest) =>
    match rest.dropWhile isBlank with
    | ':' :: value => some ⟨String.ofList (lower written), trim value⟩
    | _ => none
  | none => none

def attribute? (line : List Char) : Option Attribute :=
  match line.dropWhile isBlank with
  | c :: rest =>
    if (c = '-' ∨ c = '*') ∧ rest.head?.any isBlank then
      attributeKeys.findSome? (attributeWith? · (rest.dropWhile isBlank))
    else none
  | [] => none

/-! ## Lists in values -/

def dropPairs (c : Char) : List Char → List Char
  | a :: b :: rest => if a = c ∧ b = c then dropPairs c rest else a :: b :: rest
  | s => s

/-- The items between commas, without the blanks and double brackets around them. -/
def listItems (value : List Char) : List (List Char) :=
  ((split (· = ',') value).map fun item =>
    trim (dropPairs ']' (dropPairs '[' (trim item)).reverse).reverse).filter (· ≠ [])

end Interlink.Glossary
