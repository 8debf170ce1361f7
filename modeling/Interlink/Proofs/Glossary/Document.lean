import Interlink.Glossary.Analysis
import Interlink.Proofs.Glossary.Attributes
import Interlink.Proofs.Glossary.Registry
import Interlink.Proofs.Text.Spelling

/-!
# Names that documents define

The names and aliases of a document's definitions come without blanks around them, except that a name between
brackets may be nothing but a blank.
-/

namespace Interlink

open Text

def IsTrimmed (name : String) : Prop := trimmed name = name ∧ name ≠ ""

/-- What stands between brackets: a trimmed name, or a single blank. -/
def IsName (name : String) : Prop := IsTrimmed name ∨ ∃ b, isBlank b = true ∧ name = String.ofList [b]

structure Definition.Tidy (d : Definition) : Prop where
  name : IsName d.name
  aliases {a : String} : a ∈ d.aliases → IsTrimmed a

theorem isTrimmed_ofList_trim {s : List Char} (h : trim s ≠ []) : IsTrimmed (String.ofList (trim s)) := by
  refine ⟨by rw [trimmed, String.toList_ofList, trim_trim], fun e => h ?_⟩
  simpa using congrArg String.toList e

namespace Glossary

theorem isName_of_bracketName? {s name : List Char} (h : bracketName? s = some name) :
    IsName (String.ofList name) := by
  unfold bracketName? at h
  split at h
  · rename_i ht
    obtain ⟨b, hb, rfl⟩ := Option.map_eq_some_iff.mp h
    exact .inr ⟨b, blank_of_trim_eq_nil ht b (List.mem_of_getLast? hb), rfl⟩
  · rename_i hne
    obtain rfl := Option.some.inj h
    exact .inl (isTrimmed_ofList_trim fun e => hne e)

theorem isName_of_definedName? {text name : List Char} (h : definedName? text = some name) :
    IsName (String.ofList name) := by
  unfold definedName? at h
  split at h
  · dsimp only at h
    split at h
    · exact isName_of_bracketName? h
    · cases h
  · cases h

theorem isTrimmed_of_mem_listItems {value item : List Char} (h : item ∈ listItems value) :
    IsTrimmed (String.ofList item) := by
  obtain ⟨hm, hne⟩ := List.mem_filter.mp h
  obtain ⟨piece, _, rfl⟩ := List.mem_map.mp hm
  exact isTrimmed_ofList_trim (of_decide_eq_true hne)

/-! ## Attributes -/

theorem Attribute.isTrimmed_of_mem_aliases {a : Attribute} {x : String} (h : x ∈ a.aliases) : IsTrimmed x := by
  unfold aliases at h
  split at h
  · obtain ⟨item, hi, rfl⟩ := List.mem_map.mp h
    exact isTrimmed_of_mem_listItems hi
  · cases h

theorem tidy_define (path : String) (scope : TermScope) {name : String} (h : IsName name) (line : Nat)
    (block : List Line) : (define path scope name line block).Tidy where
  name := h
  aliases {x} hx := by
    rw [define, Draft.foldl_applyOrKeep] at hx
    obtain ⟨a, _, ha⟩ := List.mem_flatMap.mp hx
    exact a.isTrimmed_of_mem_aliases ha

/-! ## Documents -/

theorem tidy_of_mem_definitions {config : TermsConfig} {path text : String} {d : Definition}
    (h : d ∈ (Document.parse config path text).definitions) : d.Tidy := by
  obtain ⟨s, _, hs⟩ := List.mem_filterMap.mp h
  obtain ⟨name, hn, rfl⟩ := Option.map_eq_some_iff.mp hs
  unfold Section.name? at hn
  split at hn
  · exact tidy_define _ _ (isName_of_definedName? hn) _ _
  · cases hn

theorem Registry.mem_of_mem_ofList {ds : List Definition} {d : Definition} (h : d ∈ (ofList ds).definitions) :
    d ∈ ds := by
  have all : ∀ d ∈ (ofList ds).definitions, d ∈ ds := by
    refine List.foldlRecOn (motive := fun r : Registry => ∀ d ∈ r.definitions, d ∈ ds) ds _ nofun ?_
    intro r hr x hx d hd
    rcases r.insert_cases x with ⟨t, _, e⟩ | ⟨_, e⟩
    · rw [e] at hd
      exact hr d hd
    · rw [e] at hd
      rcases List.mem_append.mp hd with hd | hd
      · exact hr d hd
      · rw [List.mem_singleton.mp hd]
        exact hx
  exact all d h

theorem tidy_of_mem_terms {config : TermsConfig} {texts : List (String × String)} {t : Term}
    (h : t ∈ (analyze config texts).registry.terms) : t.definition.Tidy := by
  have hd := List.mem_of_getElem? (Registry.mem_terms.mp h)
  obtain ⟨doc, hdoc, hm⟩ := List.mem_flatMap.mp (Registry.mem_of_mem_ofList hd)
  obtain ⟨_, _, rfl⟩ := List.mem_map.mp hdoc
  exact tidy_of_mem_definitions hm

end Glossary

end Interlink
