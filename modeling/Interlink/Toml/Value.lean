import Interlink.Number.Binary64
import Interlink.Record
import Interlink.Text.Quoted

/-!
# TOML values

What a text in TOML means, how it is put together from its lines, and how data of the expected shape is
taken out of it.
-/

namespace Interlink.Toml

/-- How a table came to be, which says in what ways it may be added to. -/
inductive Form where
  | header
  | within
  | dotted
  | braces
deriving DecidableEq, Repr

inductive Value where
  | str (s : String)
  | int (n : Int)
  | float (x : Binary64)
  | bool (b : Bool)
  | time
  | array (items : List Value)
  | table (form : Form) (entries : List (String × Value))
  | tables (items : List (List (String × Value)))
deriving Inhabited

/-- The entries of a table in the order in which they came. -/
abbrev Entries := List (String × Value)

/-! ## Building tables -/

def Entries.set (k : String) (v : Value) (es : Entries) : Entries := es.map fun e => if e.1 = k then (k, v) else e

/-- The entries with the change made in the table that a path leads to. Tables on the way are made where they
are missing; of tables under one header the last one is meant. A key with `dots` does not reach into a table
with a header. -/
def Entries.change (dots : Bool) (f : Form → Entries → Option Entries) :
    List String → Form → Entries → Option Entries
  | [], form, es => f form es
  | k :: path, _, es =>
    match es.lookup k with
    | none =>
      let form : Form := if dots then .dotted else .within
      (change dots f path form []).map fun sub => es ++ [(k, .table form sub)]
    | some (.table form sub) =>
      if form = .braces || (dots && form = .header) then none
      else (change dots f path form sub).map fun sub => es.set k (.table form sub)
    | some (.tables ts) => do
      let sub ← change dots f path .header (← ts.getLast?)
      return es.set k (.tables (ts.dropLast ++ [sub]))
    | some _ => none

/-- With one more value. Tables that did not come from keys with dots cannot be added to by such keys. -/
def Entries.add (form : Form) (path : List String) (v : Value) (es : Entries) : Option Entries := do
  let k ← path.getLast?
  Entries.change true (fun form es =>
      if (form = .dotted) ≠ (1 < path.length) || (es.lookup k).isSome then none else some (es ++ [(k, v)]))
    path.dropLast form es

def Entries.addAll (form : Form) (es : Entries) (values : List (List String × Value)) : Option Entries :=
  values.foldlM (fun es (path, v) => es.add form path v) es

structure Section where
  path : List String
  repeated : Bool
  values : List (List String × Value)

/-- With the table of a section. A table has one header, which may come after those of tables inside it. -/
def Entries.addSection (es : Entries) (s : Section) : Option Entries := do
  let k ← s.path.getLast?
  Entries.change false (fun _ es => do
      match s.repeated, es.lookup k with
      | false, none => return es ++ [(k, .table .header (← Entries.addAll .header [] s.values))]
      | false, some (.table .within sub) =>
        return es.filter (·.1 ≠ k) ++ [(k, .table .header (← Entries.addAll .header sub s.values))]
      | true, none => return es ++ [(k, .tables [← Entries.addAll .header [] s.values])]
      | true, some (.tables ts) => return es.set k (.tables (ts ++ [← Entries.addAll .header [] s.values]))
      | _, _ => none)
    s.path.dropLast .header es

/-- The table of a text, from the values before the first header and the sections. -/
def Value.ofSections (values : List (List String × Value)) (sections : List Section) : Option Value := do
  let es ← Entries.addAll .header [] values
  return .table .header (← sections.foldlM Entries.addSection es)

/-! ## Data of the expected shape -/

namespace Value

def found : Value → String
  | str s => "string " ++ Text.quoted s
  | int n => "integer " ++ Fault.ticked (toString n)
  | float x => "floating point " ++ Fault.ticked x.text
  | bool b => "boolean " ++ Fault.ticked (if b then "true" else "false")
  | array _ => "sequence"
  | tables _ => "sequence"
  | table .. => "map"
  | time => "map"

def mismatch {α : Type} (v : Value) (expected : String) : Except Fault α := .error (.invalidType v.found expected)

def text : Value → Except Fault String
  | str s => .ok s
  | v => v.mismatch "a string"

def boolean : Value → Except Fault Bool
  | bool b => .ok b
  | v => v.mismatch "a boolean"

def size : Value → Except Fault Nat
  | int n => if 0 ≤ n then .ok n.toNat else .error (.invalidValue (int n).found "usize")
  | v => v.mismatch "usize"

def items? : Value → Option (List Value)
  | array items => some items
  | tables ts => some (ts.map (table .header))
  | _ => none

def list {α : Type} (read : Value → Except Fault α) (v : Value) : Except Fault (List α) :=
  match v.items? with
  | some items => items.mapM read
  | none => v.mismatch "a sequence"

/-- A name among those of `all`, alone or as the only key of a table with nothing under it. -/
def variant {α : Type} (all : List α) (name : α → String) : Value → Except Fault α
  | str s => named s
  | table _ [(s, v)] => do
    let a ← named s
    match v with
    | table _ [] | array [] => .ok a
    | _ => .error .malformed
  | _ => .error .malformed
where
  named (s : String) : Except Fault α :=
    match all.find? (name · = s) with
    | some a => .ok a
    | none => .error (.unknownVariant s (all.map name))

def record {α : Type} (shape : String) (r : Record Value α) (v : Value) : Except Fault α :=
  match v with
  | table _ entries => r.ofEntries (fun _ => .ok ()) (entries.map fun (k, v) => (.ok k, v))
  | time => r.ofEntries (fun _ => .ok ()) []
  | v =>
    match v.items? with
    | some items => r.ofItems shape items
    | none => v.mismatch shape

end Value

end Interlink.Toml
