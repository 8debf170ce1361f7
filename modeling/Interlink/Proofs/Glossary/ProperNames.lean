import Interlink.Proofs.Glossary.Brackets
import Interlink.Proofs.Glossary.Searched

/-!
# Names that can be looked up

A name that a document defines or refers to has no blanks around it, no brackets and no bar, and so a key
that is not empty, with one exception: brackets with nothing but blanks between them name a single blank.
-/

namespace Interlink.Glossary

open Text

variable {label name : List Char} {level : Nat} {l : Line} {ls : List Line}

structure IsProper (name : String) : Prop where
  trimmed : IsTrimmed name
  plain : ∀ c ∈ name.toList, c ≠ '[' ∧ c ≠ ']' ∧ c ≠ '|'
  key_ne : key name ≠ ""

def IsLabel (label : List Char) : Prop := ∀ c ∈ label, c ≠ '[' ∧ c ≠ ']' ∧ c ≠ '|'

def IsBlankLabel (label : List Char) : Prop := label ≠ [] ∧ ∀ c ∈ label, isBlank c = true

theorem IsBlankLabel.isLabel (h : IsBlankLabel label) : IsLabel label := by
  intro c hc
  have blank := h.2 c hc
  refine ⟨?_, ?_, ?_⟩ <;> rintro rfl <;> exact absurd blank (by decide)

/-! ## The name of a label -/

theorem key_ne_empty {name : String} (h : IsTrimmed name) : key name ≠ "" := fun e =>
  h.2 (h.1.symm.trans (key_eq_empty_iff.mp e))

theorem not_isTrimmed_blank {b : Char} (h : isBlank b = true) : ¬ IsTrimmed (String.ofList [b]) := by
  rintro ⟨same, -⟩
  refine trim_ne_blank (s := [b]) h ?_
  simpa [trimmed] using congrArg String.toList same

theorem isProper_of_isTrimmed (plain : IsLabel label) (h : bracketName? label = some name)
    (trimmed : IsTrimmed (String.ofList name)) : IsProper (String.ofList name) := by
  refine ⟨trimmed, fun c hc => plain c ?_, key_ne_empty trimmed⟩
  rw [String.toList_ofList] at hc
  exact mem_of_mem_bracketName? h hc

theorem isProper_iff (plain : IsLabel label) (h : bracketName? label = some name) :
    IsProper (String.ofList name) ↔ ¬ IsBlankLabel label := by
  constructor
  · rintro proper ⟨-, blank⟩
    rcases bracketName?_eq_some_iff.mp h with ⟨ne, e⟩ | ⟨-, b, hb, rfl⟩
    · exact ne (e ▸ trim_eq_nil_iff.mpr blank)
    · exact not_isTrimmed_blank (blank b (List.mem_of_getLast? hb)) proper.trimmed
  · intro not_blank
    have ne : label ≠ [] := isSome_bracketName?_iff.mp (Option.isSome_of_eq_some h)
    rcases bracketName?_eq_some_iff.mp h with ⟨some_left, rfl⟩ | ⟨ht, -⟩
    · exact isProper_of_isTrimmed plain h (isTrimmed_ofList_trim some_left)
    · exact absurd ⟨ne, trim_eq_nil_iff.mp ht⟩ not_blank

/-! ## Labels of a document -/

inductive HasLabel (level : Nat) (ls : List Line) (label : List Char) : Prop
  | heading {l : Line} : l ∈ ls → heading? l.text = some ⟨level, '[' :: '[' :: (label ++ [']', ']'])⟩ →
    HasLabel level ls label
  | reference {l : Line} {before rest : List Char} : l ∈ searched level false ls →
    maskCode l.text = before ++ '[' :: '[' :: (label ++ rest) → Closes rest → HasLabel level ls label

namespace Document

def allNames (d : Document) : List String := d.definitions.map (·.name) ++ d.references.map (·.text)

theorem mem_definitions_names_iff {config : TermsConfig} {path name : String} :
    name ∈ (ofLines config path ls).definitions.map (·.name) ↔
      ∃ l ∈ ls, ∃ s, IsDefining config.headingLevel l s ∧ name = String.ofList s := by
  have names : (ofLines config path ls).definitions.map (·.name) = (ofLines config path ls).names.map (·.1) := by
    rw [Document.names, List.map_map]
    rfl
  simp only [names, names_ofLines, List.mem_map, List.mem_filterMap, Line.name?, Option.map_eq_some_iff,
    definedAt?_eq_some_iff]
  constructor
  · rintro ⟨_, ⟨l, hl, s, hs, rfl⟩, rfl⟩
    exact ⟨l, hl, s, hs, rfl⟩
  · rintro ⟨l, hl, s, hs, rfl⟩
    exact ⟨_, ⟨l, hl, s, hs, rfl⟩, rfl⟩

theorem mem_references_texts_iff {config : TermsConfig} {path name : String} :
    name ∈ (ofLines config path ls).references.map (·.text) ↔
      ∃ l ∈ searched config.headingLevel false ls, ∃ s ∈ Glossary.references (maskCode l.text),
      name = String.ofList s := by
  simp only [references_ofLines, List.map_flatMap, List.mem_flatMap, lineReferences, List.map_map, List.mem_map,
    Function.comp_apply, eq_comm]

theorem mem_allNames_iff {config : TermsConfig} {path name : String} : name ∈ (ofLines config path ls).allNames ↔
    ∃ label s, HasLabel config.headingLevel ls label ∧ IsLabel label ∧ bracketName? label = some s ∧
      name = String.ofList s := by
  rw [allNames, List.mem_append, mem_definitions_names_iff, mem_references_texts_iff]
  simp only [mem_references_iff]
  constructor
  · rintro (⟨l, hl, s, ⟨label, hh, plain, hs⟩, rfl⟩ |
      ⟨l, hl, s, ⟨before, _, e, label, rest, rfl, plain, closes, hs⟩, rfl⟩)
    · exact ⟨label, s, .heading hl hh, plain, hs, rfl⟩
    · exact ⟨label, s, .reference hl e closes, plain, hs, rfl⟩
  · rintro ⟨label, s, h, plain, hs, rfl⟩
    cases h with
    | heading hl hh => exact .inl ⟨_, hl, s, ⟨label, hh, plain, hs⟩, rfl⟩
    | reference hl e closes => exact .inr ⟨_, hl, s, ⟨_, _, e, label, _, rfl, plain, closes, hs⟩, rfl⟩

def ProperNames (d : Document) : Prop := ∀ name ∈ d.allNames, IsProper name

theorem properNames_ofLines_iff (config : TermsConfig) (path : String) (ls : List Line) :
    (ofLines config path ls).ProperNames ↔
      ∀ label, HasLabel config.headingLevel ls label → ¬ IsBlankLabel label := by
  constructor
  · intro proper label has blank
    obtain ⟨s, hs⟩ := Option.isSome_iff_exists.mp (isSome_bracketName?_iff.mpr blank.1)
    have h := proper _ (mem_allNames_iff.mpr ⟨label, s, has, blank.isLabel, hs, rfl⟩)
    exact (isProper_iff blank.isLabel hs).mp h blank
  · intro not_blank name hn
    obtain ⟨label, s, has, plain, hs, rfl⟩ := mem_allNames_iff.mp hn
    exact (isProper_iff plain hs).mpr (not_blank label has)

/-- Every name of a document is proper or a single blank, and all are proper just when no brackets
hold nothing but blanks. -/
theorem properNames_iff (config : TermsConfig) (path text : String) :
    (∀ name ∈ (parse config path text).allNames,
      IsProper name ∨ ∃ b, isBlank b = true ∧ name = String.ofList [b]) ∧
    ((parse config path text).ProperNames ↔
      ∀ label, HasLabel config.headingLevel (visible text.toList) label → ¬ IsBlankLabel label) := by
  refine ⟨fun name hn => ?_, properNames_ofLines_iff config path _⟩
  obtain ⟨label, s, -, plain, hs, rfl⟩ := mem_allNames_iff.mp hn
  rcases isName_of_bracketName? hs with trimmed | blank
  · exact .inl (isProper_of_isTrimmed plain hs trimmed)
  · exact .inr blank

theorem not_properNames_blank : ¬ (parse {} "a.md" "### [[ ]]\n").ProperNames := by
  intro proper
  have named : " " ∈ (parse {} "a.md" "### [[ ]]\n").allNames := by decide +kernel
  exact not_isTrimmed_blank (b := ' ') (by decide) (proper _ named).trimmed

end Document

end Interlink.Glossary
