/-!
# Readers

A reader consumes a piece of a text from a cursor, or fails and leaves the cursor where it was.
`p <|> q` is ordered: `q` is tried only where `p` fails, from the same place.
-/

namespace Interlink.Syntax

/-- A place in a text: what is left, how many characters that is, and the line, counted from one. -/
structure Cursor where
  rest : List Char
  size : Nat
  line : Nat

namespace Cursor

def ofText (s : List Char) : Cursor := ⟨s, s.length, 1⟩

def advance (c : Cursor) : Cursor :=
  match c.rest with
  | [] => c
  | x :: rest => ⟨rest, c.size - 1, if x = '\n' then c.line + 1 else c.line⟩

def skipWhile (p : Char → Bool) (c : Cursor) : Cursor := go c.rest c.size c.line
where
  go : List Char → Nat → Nat → Cursor
    | [], size, line => ⟨[], size, line⟩
    | x :: rest, size, line =>
      if p x then go rest (size - 1) (if x = '\n' then line + 1 else line) else ⟨x :: rest, size, line⟩

def textTo (c d : Cursor) : List Char := c.rest.take (c.size - d.size)

def atEnd (c : Cursor) : Bool := c.rest.isEmpty

end Cursor

abbrev Reader (α : Type) := StateT Cursor Option α

namespace Reader
variable {α β : Type}

def run? (p : Reader α) (s : List Char) : Option α :=
  match p (Cursor.ofText s) with
  | some (a, c) => if c.atEnd then some a else none
  | none => none

def peek? : Reader (Option Char) := do return (← get).rest.head?

def line : Reader Nat := do return (← get).line

def char (p : Char → Bool) : Reader Char := do
  match (← get).rest with
  | x :: _ => if p x then do modify Cursor.advance; return x else failure
  | [] => failure

def exactly (x : Char) : Reader Unit := do let _ ← char (· == x)

def text (s : String) : Reader Unit := s.toList.forM exactly

def atEnd : Reader Unit := do guard (← get).atEnd

def takeWhile (p : Char → Bool) : Reader (List Char) := do
  let start ← get
  modify (Cursor.skipWhile p)
  return start.textTo (← get)

def option? (p : Reader α) : Reader (Option α) := (some <$> p) <|> pure none

def ahead (p : Reader α) : Reader Bool := fun c => some ((p c).isSome, c)

def require (b : Reader Bool) : Reader Unit := do guard (← b)

def notAhead (p : Reader α) : Reader Unit := do guard !(← ahead p)

def atMost (p : Reader α) : Nat → Reader (List α)
  | 0 => pure []
  | n + 1 => fun c =>
    match p c with
    | none => some ([], c)
    | some (a, c') =>
      match atMost p n c' with
      | some (as, c'') => some (a :: as, c'')
      | none => none

/-- As many repetitions as there are; each of them has to consume something. -/
def many (p : Reader α) : Reader (List α) := fun c => atMost p (c.size + 1) c

def many1 (p : Reader α) : Reader (List α) := do return (← p) :: (← many p)

def sepBy1 (p : Reader α) (sep : Reader β) : Reader (List α) := do
  return (← p) :: (← many (sep *> p))

def withText (p : Reader α) : Reader (α × List Char) := do
  let start ← get
  let a ← p
  return (a, start.textTo (← get))

def oneOf (ps : List (Reader α)) : Reader α := ps.foldr (fun p q => p <|> q) failure

end Reader

end Interlink.Syntax
