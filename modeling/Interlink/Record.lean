import Interlink.Fault

/-!
# Records

Values with named fields, read from data that may not have the expected shape. Faults come up in the order
of the data: fields are checked one by one as they stand, and only then is it asked which are missing.
-/

namespace Interlink

/-- A field of a record whose data has the type `V`. -/
structure Field (V : Type) where
  name : String
  required : Bool
  check : V → Except Fault Unit

/-- How a value is read from the data of its fields. -/
structure Record (V α : Type) where
  fields : List (Field V)
  build : (String → Option V) → Except Fault α

namespace Record

variable {V α β : Type}

instance : Applicative (Record V) where
  pure a := ⟨[], fun _ => .ok a⟩
  seq f x := ⟨f.fields ++ (x ()).fields, fun find => do return (← f.build find) (← (x ()).build find)⟩

def required (name : String) (read : V → Except Fault α) : Record V α where
  fields := [⟨name, true, fun v => do discard (read v)⟩]
  build find :=
    match find name with
    | some v => read v
    | none => .error (.missingField name)

def optional (name : String) (default : α) (read : V → Except Fault α) : Record V α where
  fields := [⟨name, false, fun v => do discard (read v)⟩]
  build find :=
    match find name with
    | some v => read v
    | none => .ok default

/-- Checks the entries of a record in their order. Fields that are not `known` are skipped. -/
def check (known : List (Field V)) (skip : V → Except Fault Unit) (seen : List String) :
    List (Except Fault String × V) → Except Fault Unit
  | [] => .ok ()
  | (name, v) :: rest => do
    let name ← name
    match known.find? (·.name = name) with
    | none => skip v
    | some field => if name ∈ seen then .error (.duplicateField name) else field.check v
    check known skip (name :: seen) rest

/-- The value whose fields stand under their names; a name may turn out to be none. -/
def ofEntries (r : Record V α) (skip : V → Except Fault Unit) (entries : List (Except Fault String × V)) :
    Except Fault α := do
  check r.fields skip [] entries
  r.build fun name => (entries.find? fun e => e.1.toOption = some name).map (·.2)

def ofItems (r : Record V α) (shape : String) (items : List V) : Except Fault α := do
  let named := r.fields.zip items
  for (field, v) in named do field.check v
  match (r.fields.drop items.length).findIdx? (·.required) with
  | some i =>
    .error (.invalidLength (items.length + i) (shape ++ " with " ++ toString r.fields.length ++ " elements"))
  | none => r.build fun name => (named.find? fun e => e.1.name = name).map (·.2)

end Record

end Interlink
