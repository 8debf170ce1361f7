import Interlink.Proofs.Glossary.Parts

/-!
# Lines that are searched for references

A document told line by line. Of its visible lines all are searched for references but the headings
that define names and the attributes of definitions, so all that has to be remembered from line to
line is whether a definition is open.
-/

namespace Interlink.Glossary

open Text

variable {level : Nat} {l : Line} {ls : List Line} {config : TermsConfig} {path : String} {inside : Bool}

def openAfter (level : Nat) (inside : Bool) (l : Line) : Bool :=
  match heading? l.text with
  | some _ => (definedAt? level l).isSome
  | none => inside

/-- Whether a line is searched; `inside` says that a definition is open before it. -/
def isSearched (level : Nat) (inside : Bool) (l : Line) : Bool :=
  match heading? l.text with
  | some _ => (definedAt? level l).isNone
  | none => !inside || (attribute? l.text).isNone

def searched (level : Nat) (inside : Bool) : List Line → List Line
  | [] => []
  | l :: ls => (if isSearched level inside l then [l] else []) ++ searched level (openAfter level inside l) ls

theorem searched_append (level : Nat) (inside : Bool) (ls ls' : List Line) : searched level inside (ls ++ ls') =
    searched level inside ls ++ searched level (ls.foldl (openAfter level) inside) ls' := by
  induction ls generalizing inside with
  | nil => rfl
  | cons l ls ih => rw [List.cons_append, searched, ih, searched, List.append_assoc]; rfl

theorem searched_sublist (level : Nat) (inside : Bool) (ls : List Line) :
    (searched level inside ls).Sublist ls := by
  induction ls generalizing inside with
  | nil => exact List.Sublist.refl _
  | cons l ls ih =>
    rw [searched]
    split
    · exact (ih _).cons_cons l
    · exact (ih _).cons l

/-! ## Documents -/

theorem textLines_sections (level : Nat) (inside : Bool) (ls : List Line) :
    (if inside then bodyLines (sections ls).1 else (sections ls).1) ++
      (sections ls).2.flatMap (Section.textLines level) = searched level inside ls := by
  induction ls generalizing inside with
  | nil => cases inside <;> rfl
  | cons l ls ih =>
    rw [searched, isSearched, openAfter, sections]
    cases h : heading? l.text with
    | some x =>
      have name : Section.name? level ⟨x, l, (sections ls).1⟩ = definedAt? level l := by rw [definedAt?, h]; rfl
      dsimp only
      rw [← ih, List.flatMap_cons, Section.textLines, name]
      cases definedAt? level l with
      | some name => simp [bodyLines]
      | none => simp [bodyLines]
    | none =>
      dsimp only
      rw [← ih]
      cases inside with
      | false => rfl
      | true =>
        cases ha : attribute? l.text with
        | some a => simp [bodyLines, ha]
        | none => simp [bodyLines, ha]

theorem references_ofLines (config : TermsConfig) (path : String) (ls : List Line) :
    (Document.ofLines config path ls).references =
      (searched config.headingLevel false ls).flatMap (lineReferences path) := by
  rw [← textLines_sections]
  rfl

def Document.names (d : Document) : List (String × Nat) := d.definitions.map fun x => (x.name, x.line)

def Line.name? (level : Nat) (l : Line) : Option (String × Nat) :=
  (definedAt? level l).map fun name => (String.ofList name, l.number)

theorem names_ofLines (config : TermsConfig) (path : String) (ls : List Line) :
    (Document.ofLines config path ls).names = ls.filterMap (Line.name? config.headingLevel) := by
  rw [Document.names, definitions_ofLines, List.map_map, parts, List.map_filterMap]
  induction ls with
  | nil => rfl
  | cons l ls ih =>
    rw [List.tails_cons, List.filterMap_cons, ih, List.filterMap_cons, partAt?, Line.name?]
    cases definedAt? config.headingLevel l with
    | none => rfl
    | some name => rfl

end Interlink.Glossary
