import Interlink.Number.Binary64
import Interlink.Record
import Interlink.Table
import Interlink.Text.Quoted

/-!
# JSON values

What a text in JSON means, and how data of the expected shape is taken out of it. A text that breaks off
has a meaning up to that point, so that the first fault in a text is found whatever follows it.
-/

namespace Interlink.Json

inductive Value where
  | null
  | bool (b : Bool)
  | int (n : Int)
  | float (x : Binary64)
  | str (s : String)
  /-- A number or text that is well-formed and yet none, which matters only to those who read it. -/
  | unreadable
  | arr (items : List Value) (closed : Bool)
  | obj (members : List (String × Value)) (closed : Bool)
  | broken
deriving Inhabited

namespace Value

def found : Value → Except Fault String
  | null => .ok "null"
  | bool b => .ok ("boolean " ++ Fault.ticked (if b then "true" else "false"))
  | int n => .ok ("integer " ++ Fault.ticked (toString n))
  | float x => .ok ("floating point " ++ Fault.ticked x.text)
  | str s => .ok ("string " ++ Text.quoted s)
  | arr .. => .ok "sequence"
  | obj .. => .ok "map"
  | unreadable => .error .malformed
  | broken => .error .malformed

def mismatch {α : Type} (v : Value) (expected : String) : Except Fault α := do
  .error (.invalidType (← v.found) expected)

def skip : Value → Except Fault Unit
  | broken => .error .malformed
  | arr _ false => .error .malformed
  | obj _ false => .error .malformed
  | _ => .ok ()

def whenClosed {α : Type} (closed : Bool) (a : α) : Except Fault α := if closed then .ok a else .error .malformed

def text : Value → Except Fault String
  | str s => .ok s
  | v => v.mismatch "a string"

def boolean : Value → Except Fault Bool
  | bool b => .ok b
  | v => v.mismatch "a boolean"

def natural (bits : Nat) (name : String) : Value → Except Fault Nat
  | int n =>
    if 0 ≤ n ∧ n < Int.pow 2 bits then .ok n.toNat
    else .error (.invalidValue ("integer " ++ Fault.ticked (toString n)) name)
  | v => v.mismatch name

def size : Value → Except Fault Nat := natural 64 "usize"

def optional {α : Type} (read : Value → Except Fault α) : Value → Except Fault (Option α)
  | null => .ok none
  | v => some <$> read v

def list {α : Type} (read : Value → Except Fault α) : Value → Except Fault (List α)
  | arr items closed => do whenClosed closed (← items.mapM read)
  | v => v.mismatch "a sequence"

def keySet (v : Value) : Except Fault KeySet := KeySet.ofList <$> list text v

def table {α : Type} (read : Value → Except Fault α) : Value → Except Fault (Table α)
  | obj members closed => do
    whenClosed closed (Table.ofList (← members.mapM fun (k, v) => do return (k, ← read v)))
  | v => v.mismatch "a map"

/-- A name among those of `all`, alone or as the only member of an object. -/
def variant {α : Type} (all : List α) (name : α → String) : Value → Except Fault α
  | str s => named s
  | obj ((s, v) :: more) closed => do
    let a ← named s
    match v with
    | null => if closed && more.isEmpty then .ok a else .error .malformed
    | v => v.mismatch "unit"
  | _ => .error .malformed
where
  named (s : String) : Except Fault α :=
    match all.find? (name · = s) with
    | some a => .ok a
    | none => .error (.unknownVariant s (all.map name))

def record {α : Type} (shape : String) (r : Record Value α) : Value → Except Fault α
  | obj members closed =>
    r.ofEntries skip (members.map (fun (k, v) => (.ok k, v)) ++
      if closed then [] else [(.error .malformed, broken)])
  | arr items closed => do
    let a ← r.ofItems shape (if closed then items else items ++ [broken])
    whenClosed (closed && items.length ≤ r.fields.length) a
  | v => v.mismatch shape

end Value

end Interlink.Json
