import Interlink.Json.Value

/-!
# Writing JSON

Values as text, one item or member a line, two spaces further in than what holds it.
-/

namespace Interlink.Json

def hexDigit (n : Nat) : Char := if n < 10 then Char.ofNat ('0'.toNat + n) else Char.ofNat ('a'.toNat + (n - 10))

def escape (c : Char) : List Char :=
  if c = '\x22' then ['\\', '\x22']
  else if c = '\\' then ['\\', '\\']
  else if c = '\x08' then ['\\', 'b']
  else if c = '\x0C' then ['\\', 'f']
  else if c = '\n' then ['\\', 'n']
  else if c = '\r' then ['\\', 'r']
  else if c = '\t' then ['\\', 't']
  else if c.toNat < 0x20 then ['\\', 'u', '0', '0', hexDigit (c.toNat / 16), hexDigit (c.toNat % 16)]
  else [c]

def renderText (s : String) : List Char := '\x22' :: s.toList.flatMap escape ++ ['\x22']

def renderInt : Int → List Char
  | .ofNat n => Nat.toDigits 10 n
  | .negSucc n => '-' :: Nat.toDigits 10 (n + 1)

def newLine (depth : Nat) : List Char := '\n' :: List.replicate (2 * depth) ' '

mutual

def render (depth : Nat) : Value → List Char
  | .null => "null".toList
  | .bool b => (if b then "true" else "false").toList
  | .int n => renderInt n
  | .float x => x.text.toList
  | .str s => renderText s
  | .unreadable => "null".toList
  | .broken => "null".toList
  | .arr [] _ => ['[', ']']
  | .arr (v :: vs) _ =>
    '[' :: newLine (depth + 1) ++ render (depth + 1) v ++ renderItems (depth + 1) vs ++ newLine depth ++ [']']
  | .obj [] _ => ['\x7b', '\x7d']
  | .obj ((k, v) :: ms) _ =>
    '\x7b' :: newLine (depth + 1) ++ renderText k ++ [':', ' '] ++ render (depth + 1) v
      ++ renderMembers (depth + 1) ms ++ newLine depth ++ ['\x7d']

def renderItems (depth : Nat) : List Value → List Char
  | [] => []
  | v :: vs => ',' :: newLine depth ++ render depth v ++ renderItems depth vs

def renderMembers (depth : Nat) : List (String × Value) → List Char
  | [] => []
  | (k, v) :: ms => ',' :: newLine depth ++ renderText k ++ [':', ' '] ++ render depth v ++ renderMembers depth ms

end

def Value.pretty (v : Value) : String := String.ofList (render 0 v)

/-! ## Values of data -/

namespace Value

def ofNat (n : Nat) : Value := .int n

def ofTexts (ts : List String) : Value := .arr (ts.map .str) true

def ofSet (s : KeySet) : Value := ofTexts s.toList

def ofList {α : Type} (f : α → Value) (xs : List α) : Value := .arr (xs.map f) true

def ofTable {α : Type} (f : α → Value) (t : Table α) : Value := .obj (t.toList.map fun e => (e.1, f e.2)) true

def ofMembers (ms : List (Option (String × Value))) : Value := .obj (ms.filterMap id) true

end Value

end Interlink.Json
