import Interlink.Glossary.NameTable
import Interlink.Text.Cut

/-!
# The registry of terms

Definitions in the order in which they came, without those that repeat a name of their scope. A scope is the
whole project or a single document, and has a name table of its own.
-/

namespace Interlink.Glossary

open Text

inductive ConflictKind where
  | definition
  | alias
deriving DecidableEq, Repr

def ConflictKind.name : ConflictKind → String
  | .definition => "definition"
  | .alias => "alias"

structure Conflict where
  /-- As the second of the two definitions writes it. -/
  name : String
  kind : ConflictKind
  first : Location
  second : Location
deriving DecidableEq, Repr

structure Registry where
  definitions : List Definition := []
  global : NameTable := {}
  documents : Table NameTable := .empty
  conflicts : List Conflict := []
deriving DecidableEq

namespace Registry

def terms (r : Registry) : List Term := r.definitions.mapIdx Term.mk

def size (r : Registry) : Nat := r.definitions.length

/-- The name table of the project, or of a document. -/
def table (r : Registry) : Option String → NameTable
  | none => r.global
  | some file => (r.documents.find? file).getD {}

def withTable (r : Registry) (table : NameTable) : Option String → Registry
  | none => { r with global := table }
  | some file => { r with documents := r.documents.insert file table }

/-! ## Registration -/

/-- What a definition that repeats the name of a term is at odds with. -/
def repetition (t : Term) (d : Definition) : List Conflict :=
  if t.definition.definition = d.definition then []
  else [⟨d.name, .definition, t.location, .ofLine d.file d.line⟩]

def contested (d : Definition) (c : Contest) : Conflict :=
  ⟨c.name, .alias, c.holder.location, .ofLine d.file d.line⟩

/-- The registry with one more definition, and the number of the term that its name means. Where the scope
has the name already, the first definition stays. -/
def insert (d : Definition) (r : Registry) : Registry × Nat :=
  let table := r.table d.onlyIn?
  match table.names.find? (key d.name) with
  | some t => ({ r with conflicts := r.conflicts ++ repetition t d }, t.number)
  | none =>
    let (table, contests) := table.register ⟨r.size, d⟩
    ({ r.withTable table d.onlyIn? with
        definitions := r.definitions ++ [d]
        conflicts := r.conflicts ++ contests.map (contested d) },
      r.size)

def ofList (ds : List Definition) : Registry := ds.foldl (fun r d => (r.insert d).1) {}

/-! ## Resolution -/

/-- What a name means in a document. -/
inductive Meaning where
  | visible (t : Term)
  /-- Only other documents define it, each for itself. -/
  | hidden (t : Term)
  | undefined
deriving DecidableEq, Repr

def Meaning.term? : Meaning → Option Term
  | visible t => some t
  | hidden t => some t
  | undefined => none

/-- The term of a name within one scope. -/
def find? (r : Registry) (onlyIn? : Option String) (name : String) : Option Term :=
  (r.table onlyIn?).find? (key name)

def global? (r : Registry) (name : String) : Option Term := r.find? none name

/-- What a name means in the document `file`: a term of that document, or else a global term. -/
def meaning (r : Registry) (name file : String) : Meaning :=
  match r.find? (some file) name <|> r.global? name with
  | some t => .visible t
  | none =>
    match (r.documents.toList.filter (·.1 ≠ file)).findSome? fun e => e.2.find? (key name) with
    | some t => .hidden t
    | none => .undefined

/-! ## Search -/

/-- How well a definition fits a search: by its name, by an alias, by a part of either, or by its text. -/
def fit? (needle : String) (d : Definition) : Option Nat :=
  let name := lowered d.name
  let aliases := d.aliases.map lowered
  if name = needle then some 0
  else if aliases.contains needle then some 1
  else if includes name needle || aliases.any (includes · needle) then some 2
  else if includes (lowered d.definition) needle then some 3
  else none

/-- Better fits come first, then the order of names, then of files. -/
def fitsBefore (a b : Nat × Definition) : Bool :=
  let nameA := lowered a.2.name
  let nameB := lowered b.2.name
  if a.1 ≠ b.1 then a.1 < b.1 else if nameA ≠ nameB then nameA < nameB else a.2.file ≤ b.2.file

def search (r : Registry) (query : String) : List Definition :=
  let needle := key query
  if needle.isEmpty then []
  else ((r.definitions.filterMap fun d => (fit? needle d).map (·, d)).mergeSort fitsBefore).map (·.2)

end Registry

end Interlink.Glossary
