import Interlink.Consistency
import Interlink.Proofs.Report

/-!
# What the checks of an index say

An index is free of inconsistencies just in case every relation stands at both of its ends. The checks of
interfaces report findings of other kinds only.
-/

namespace Interlink

open Consistency

/-- Every relation between two entries stands at both, terms are counted right, and features name terms of
the index only. -/
structure Index.Bidirectional (ix : Index) : Prop where
  code (id file : String) : uses ix id file = documents ix file id
  imports (a b : String) : imports ix a b = importedBy ix b a
  related (a b : String) : relates ix a b = relates ix b a
  providers (id name : String) : provides ix id name = hasProvider ix name id
  users (id name : String) : consumes ix id name = hasUser ix name id
  counts {key : String} {t : TermEntry} : ix.terms.find? key = some t → t.uses.length = t.useCount
  terms {id : String} {f : FeatureEntry} {key : String} : ix.features.find? id = some f →
    key ∈ f.termsUsed ∨ key ∈ f.termsDefined → ix.terms.contains key = true

namespace Consistency

variable {ix : Index}

/-! ## Checks of all entries -/

theorem ofFeatures_eq_nil {check : String → FeatureEntry → Report} :
    ofFeatures ix check = [] ↔ ∀ id f, ix.features.find? id = some f → check id f = [] := by
  simp only [ofFeatures, List.flatMap_eq_nil_iff, Table.find?_eq_some, Prod.forall]

theorem ofCode_eq_nil {check : String → CodeEntry → Report} :
    ofCode ix check = [] ↔ ∀ file c, ix.code.find? file = some c → check file c = [] := by
  simp only [ofCode, List.flatMap_eq_nil_iff, Table.find?_eq_some, Prod.forall]

theorem ofInterfaces_eq_nil {check : String → InterfaceEntry → Report} :
    ofInterfaces ix check = [] ↔ ∀ name i, ix.interfaces.find? name = some i → check name i = [] := by
  simp only [ofInterfaces, List.flatMap_eq_nil_iff, Table.find?_eq_some, Prod.forall]

theorem failing_eq_nil {s : KeySet} {holds : String → Bool} {finding : String → Finding} :
    failing s holds finding = [] ↔ ∀ x ∈ s, holds x = true := by
  simp [failing]

section
variable {α : Type} {t : Table α}

theorem failing_all_eq_nil {part : α → KeySet} {holds : String → String → Bool}
    {finding : String → α → String → Finding} :
    (∀ k v, t.find? k = some v → failing (part v) (holds k) (finding k v) = []) ↔
      ∀ k x, (t.find? k).any (x ∈ part ·) = true → holds k x = true := by
  simp only [failing_eq_nil, Option.any_eq_true, decide_eq_true_eq]
  constructor
  · intro h k x hx
    obtain ⟨v, hv, hx⟩ := hx
    exact h k v hv x hx
  · intro h k v hv x hx
    exact h k x ⟨v, hv, hx⟩

theorem append_all_eq_nil {check check' : String → α → Report} :
    (∀ k v, t.find? k = some v → check k v ++ check' k v = []) ↔
      (∀ k v, t.find? k = some v → check k v = []) ∧ ∀ k v, t.find? k = some v → check' k v = [] := by
  simp only [List.append_eq_nil_iff]
  exact ⟨fun h => ⟨fun k v hv => (h k v hv).1, fun k v hv => (h k v hv).2⟩,
    fun h k v hv => ⟨h.1 k v hv, h.2 k v hv⟩⟩

end

theorem each_implies {r r' : String → String → Bool} :
    ((∀ a b, r a b = true → r' b a = true) ∧ ∀ b a, r' b a = true → r a b = true) ↔ ∀ a b, r a b = r' b a :=
  ⟨fun h a b => Bool.eq_iff_iff.mpr ⟨h.1 a b, h.2 b a⟩,
    fun h => ⟨fun a b hr => h a b ▸ hr, fun b a hr => (h a b).symm ▸ hr⟩⟩

/-! ## The reports -/

theorem codeReport_eq_nil : codeReport ix = [] ↔ ∀ id file, uses ix id file = documents ix file id := by
  rw [← each_implies, codeReport, List.append_eq_nil_iff, ofFeatures_eq_nil, ofCode_eq_nil]
  exact and_congr failing_all_eq_nil failing_all_eq_nil

theorem importReport_eq_nil : importReport ix = [] ↔ ∀ a b, imports ix a b = importedBy ix b a := by
  rw [← each_implies, importReport, ofCode_eq_nil, append_all_eq_nil]
  exact and_congr failing_all_eq_nil failing_all_eq_nil

theorem relationReport_eq_nil : relationReport ix = [] ↔ ∀ a b, relates ix a b = relates ix b a := by
  rw [relationReport, ofFeatures_eq_nil]
  refine Iff.trans failing_all_eq_nil ?_
  exact ⟨fun h => each_implies.mp ⟨h, h⟩, fun h => (each_implies.mpr h).1⟩

theorem linkReport_eq_nil : linkReport ix = [] ↔
    (∀ id name, provides ix id name = hasProvider ix name id) ∧
      ∀ id name, consumes ix id name = hasUser ix name id := by
  rw [linkReport, List.append_eq_nil_iff, ofInterfaces_eq_nil, ofFeatures_eq_nil, append_all_eq_nil,
    append_all_eq_nil, and_comm, and_and_and_comm, ← each_implies, ← each_implies]
  exact and_congr (and_congr failing_all_eq_nil failing_all_eq_nil)
    (and_congr failing_all_eq_nil failing_all_eq_nil)

theorem termReport_eq_nil : termReport ix = [] ↔
    (∀ key t, ix.terms.find? key = some t → t.uses.length = t.useCount) ∧
      ∀ id f, ix.features.find? id = some f →
        ∀ key, key ∈ f.termsUsed ∨ key ∈ f.termsDefined → ix.terms.contains key = true := by
  rw [termReport, List.append_eq_nil_iff, ofFeatures_eq_nil]
  refine and_congr ?_ ?_
  · simp only [List.flatMap_eq_nil_iff, Prod.forall, ← Table.find?_eq_some, ite_eq_left_iff, List.cons_ne_nil,
      imp_false, Classical.not_not]
  · simp only [List.append_eq_nil_iff, failing_eq_nil, or_imp, forall_and]

/-! ## The kinds of findings -/

theorem kind_of_mem_failing {s : KeySet} {holds : String → Bool} {message : String → String}
    {file? : String → Option String} {f : Finding}
    (hf : f ∈ failing s holds fun x => oneSided (message x) (file? x)) : f.kind = .indexInconsistency := by
  obtain ⟨x, _, rfl⟩ := List.mem_map.mp hf
  rfl

theorem kind_of_mem_codeReport {f : Finding} (hf : f ∈ codeReport ix) : f.kind = .indexInconsistency := by
  rcases List.mem_append.mp hf with hf | hf
  all_goals
    obtain ⟨_, _, hf⟩ := List.mem_flatMap.mp hf
    exact kind_of_mem_failing hf

theorem kind_of_mem_importReport {f : Finding} (hf : f ∈ importReport ix) : f.kind = .indexInconsistency := by
  obtain ⟨_, _, hf⟩ := List.mem_flatMap.mp hf
  rcases List.mem_append.mp hf with hf | hf
  all_goals exact kind_of_mem_failing hf

theorem kind_of_mem_relationReport {f : Finding} (hf : f ∈ relationReport ix) : f.kind = .indexInconsistency := by
  obtain ⟨_, _, hf⟩ := List.mem_flatMap.mp hf
  exact kind_of_mem_failing hf

theorem kind_of_mem_linkReport {f : Finding} (hf : f ∈ linkReport ix) : f.kind = .indexInconsistency := by
  rcases List.mem_append.mp hf with hf | hf
  all_goals
    obtain ⟨_, _, hf⟩ := List.mem_flatMap.mp hf
    rcases List.mem_append.mp hf with hf | hf
    all_goals exact kind_of_mem_failing hf

theorem kind_of_mem_termReport {f : Finding} (hf : f ∈ termReport ix) : f.kind = .indexInconsistency := by
  rcases List.mem_append.mp hf with hf | hf
  · obtain ⟨_, _, hf⟩ := List.mem_flatMap.mp hf
    dsimp only at hf
    split at hf
    · cases hf
    · obtain rfl := List.mem_singleton.mp hf
      rfl
  · obtain ⟨_, _, hf⟩ := List.mem_flatMap.mp hf
    rcases List.mem_append.mp hf with hf | hf
    all_goals exact kind_of_mem_failing hf

theorem kind_of_mem_providerReport {f : Finding} (hf : f ∈ providerReport ix) : f.kind ≠ .indexInconsistency := by
  obtain ⟨_, _, hf⟩ := List.mem_flatMap.mp hf
  rcases List.mem_append.mp hf with hf | hf
  · rcases List.mem_append.mp hf with hf | hf
    · split at hf
      · obtain rfl := List.mem_singleton.mp hf
        nofun
      · cases hf
    · obtain ⟨_, _, rfl⟩ := List.mem_map.mp hf
      nofun
  · split at hf
    · obtain rfl := List.mem_singleton.mp hf
      nofun
    · cases hf

theorem kind_of_mem_coverageReport {f : Finding} (hf : f ∈ coverageReport ix) : f.kind ≠ .indexInconsistency := by
  obtain ⟨_, _, hf⟩ := List.mem_flatMap.mp hf
  dsimp only at hf
  split at hf
  · cases hf
  · obtain ⟨_, _, hf⟩ := List.mem_flatMap.mp hf
    dsimp only at hf
    split at hf
    · cases hf
    · obtain rfl := List.mem_singleton.mp hf
      nofun

end Consistency

theorem Index.inconsistencies_eq (ix : Index) : ix.validate.ofKind .indexInconsistency =
    codeReport ix ++ importReport ix ++ relationReport ix ++ linkReport ix ++ termReport ix := by
  simp only [validate, Report.ofKind_append, Report.ofKind_eq_self fun _ => kind_of_mem_codeReport,
    Report.ofKind_eq_self fun _ => kind_of_mem_importReport,
    Report.ofKind_eq_self fun _ => kind_of_mem_relationReport,
    Report.ofKind_eq_self fun _ => kind_of_mem_linkReport, Report.ofKind_eq_self fun _ => kind_of_mem_termReport,
    Report.ofKind_eq_nil fun _ => kind_of_mem_providerReport,
    Report.ofKind_eq_nil fun _ => kind_of_mem_coverageReport, List.append_nil]

/-- An index is free of inconsistencies just in case all its relations stand at both ends. -/
theorem Index.bidirectional_iff {ix : Index} :
    ix.validate.ofKind .indexInconsistency = [] ↔ ix.Bidirectional := by
  simp only [inconsistencies_eq, List.append_eq_nil_iff, codeReport_eq_nil, importReport_eq_nil,
    relationReport_eq_nil, linkReport_eq_nil, termReport_eq_nil]
  constructor
  · intro hx
    obtain ⟨⟨⟨⟨code, imports⟩, related⟩, providers, users⟩, counts, terms⟩ := hx
    exact ⟨code, imports, related, providers, users, counts _ _, fun hf hk => terms _ _ hf _ hk⟩
  · intro h
    exact ⟨⟨⟨⟨h.code, h.imports⟩, h.related⟩, h.providers, h.users⟩, fun _ _ => h.counts,
      fun _ _ hf _ => h.terms hf⟩

end Interlink
