import Interlink.Proofs.Glossary.Usage
import Interlink.Proofs.TermKeys
import Mathlib.Data.Prod.Lex

/-!
# Features and their terms

What a feature tells of its terms and what terms tell of documents are put together apart: one from
all that a document mentions, the other from all that mentions a term. Where keys tell terms apart,
both say the same.
-/

namespace Interlink

open Glossary

/-! ## Uses in order -/

def TermUse.rank (u : TermUse) : String ×ₗ Nat ×ₗ String := toLex (u.file, toLex (u.line, u.text))

namespace Assembly

theorem usePrecedes_iff {u v : TermUse} : usePrecedes u v = true ↔ u.rank ≤ v.rank := by
  unfold usePrecedes TermUse.rank
  simp only [Prod.Lex.toLex_le_toLex]
  split
  · rename_i hf
    simp [hf]
  · rename_i hf
    split
    · rename_i hl
      simp [not_not.mp hf, hl]
    · rename_i hl
      simp [not_not.mp hf, not_not.mp hl]

variable {a : Assembly} {generatedAt : Timestamp} {t : Term} {key doc : String}

theorem sorted_termUses : (a.termUses t).Pairwise fun u v => u.rank ≤ v.rank := by
  have trans (u v w : TermUse) (huv : usePrecedes u v = true) (hvw : usePrecedes v w = true) :
      usePrecedes u w = true :=
    usePrecedes_iff.mpr (le_trans (usePrecedes_iff.mp huv) (usePrecedes_iff.mp hvw))
  have total (u v : TermUse) : (usePrecedes u v || usePrecedes v u) = true := by
    rw [Bool.or_eq_true, usePrecedes_iff, usePrecedes_iff]
    exact le_total u.rank v.rank
  exact (List.pairwise_mergeSort trans total _).imp usePrecedes_iff.mp

/-! ## Both sides -/

theorem mem_termUses {u : TermUse} : u ∈ a.termUses t ↔
    ∃ m ∈ a.terms.report.mentions, m.meaning.term? = some t ∧ .ofReference m.reference = u := by
  refine (a.uses_termEntry_perm t).mem_iff.trans ?_
  simp [TermReport.uses, usesOf, and_assoc]

theorem mem_termsUsed : key ∈ a.termsUsed doc ↔ ∃ m ∈ a.terms.report.mentions, m.reference.file = doc ∧
    ∃ t, m.meaning.term? = some t ∧ t.definition.key = key := by
  simp [termsUsed, and_assoc]

theorem mem_termsDefined : key ∈ a.termsDefined doc ↔
    ∃ t ∈ a.terms.registry.terms, t.definition.key = key ∧ t.definition.file = doc := by
  simp only [termsDefined, KeySet.mem_ofList, List.mem_map, List.mem_filter, decide_eq_true_eq]
  constructor
  · rintro ⟨d, ⟨hd, file⟩, rfl⟩
    obtain ⟨t, ht, rfl⟩ := Registry.exists_term hd
    exact ⟨t, ht, rfl, file⟩
  · rintro ⟨t, ht, rfl, file⟩
    exact ⟨t.definition, ⟨List.mem_of_getElem? (Registry.mem_terms.mp ht), file⟩, rfl⟩

section
variable (sole : ∀ t ∈ a.terms.registry.terms, ∀ u ∈ a.terms.registry.terms,
  t.definition.key = u.definition.key → t = u)

include sole

theorem find?_terms_iff {e : TermEntry} : (a.index generatedAt).terms.find? key = some e ↔
    ∃ t ∈ a.terms.registry.terms, t.definition.key = key ∧ a.termEntry t = e := by
  constructor
  · intro he
    obtain ⟨t, ht, hx⟩ := mem_terms_index (Table.find?_eq_some.mp he)
    obtain ⟨rfl, rfl⟩ := Prod.mk.inj hx
    exact ⟨t, ht, rfl, rfl⟩
  · rintro ⟨t, ht, rfl, rfl⟩
    exact find?_terms_index ht fun u hu e => sole u hu t ht e

theorem mem_termsDefined_iff : key ∈ a.termsDefined doc ↔
    ∃ e, (a.index generatedAt).terms.find? key = some e ∧ e.file = doc := by
  rw [mem_termsDefined]
  constructor
  · rintro ⟨t, ht, hk, file⟩
    exact ⟨a.termEntry t, (find?_terms_iff sole).mpr ⟨t, ht, hk, rfl⟩, file⟩
  · rintro ⟨e, he, file⟩
    obtain ⟨t, ht, hk, rfl⟩ := (find?_terms_iff sole).mp he
    exact ⟨t, ht, hk, file⟩

theorem Sound.mem_termsUsed_iff (h : a.Sound) : key ∈ a.termsUsed doc ↔
    ∃ e, (a.index generatedAt).terms.find? key = some e ∧ ∃ u ∈ e.uses, u.file = doc := by
  rw [mem_termsUsed]
  constructor
  · rintro ⟨m, hm, file, t, means, hk⟩
    refine ⟨a.termEntry t, (find?_terms_iff sole).mpr ⟨t, h.mentioned hm means, hk, rfl⟩,
      .ofReference m.reference, ?_, file⟩
    exact mem_termUses.mpr ⟨m, hm, means, rfl⟩
  · rintro ⟨e, he, u, hu, file⟩
    obtain ⟨t, -, hk, rfl⟩ := (find?_terms_iff sole).mp he
    obtain ⟨m, hm, means, rfl⟩ := mem_termUses.mp hu
    exact ⟨m, hm, file, t, means, hk⟩

end

end Assembly

/-! ## References of documents -/

namespace Glossary

theorem Registry.sole_of_nodup {r : Registry} (distinct : (r.definitions.map Definition.key).Nodup) :
    ∀ t ∈ r.terms, ∀ u ∈ r.terms, t.definition.key = u.definition.key → t = u := by
  intro t ht u hu same
  obtain ⟨hi, et⟩ := List.getElem?_eq_some_iff.mp (mem_terms.mp ht)
  obtain ⟨hj, eu⟩ := List.getElem?_eq_some_iff.mp (mem_terms.mp hu)
  have hi' : t.number < (r.definitions.map Definition.key).length := by rwa [List.length_map]
  have hj' : u.number < (r.definitions.map Definition.key).length := by rwa [List.length_map]
  have keys : (r.definitions.map Definition.key)[t.number] = (r.definitions.map Definition.key)[u.number] := by
    rw [List.getElem_map, List.getElem_map, et, eu, same]
  exact eq_of_number ht hu (distinct.getElem_inj_iff.mp keys)

theorem uses_analyze (config : TermsConfig) (texts : List (String × String)) (t : Term) :
    ((analyze config texts).report.uses t).map TermUse.ofReference =
      (((analyze config texts).documents.flatMap (·.references)).filter fun x =>
        ((analyze config texts).registry.meaning x.text x.file).term? = some t).map .ofReference := by
  have same (x : Reference) (r : Registry) : TermUse.ofReference (r.mention x).reference = .ofReference x := by
    obtain ⟨_, e⟩ := r.exists_reference_mention x
    rw [e]
    rfl
  have mentions :
      (analyze config texts).report.mentions = ((analyze config texts).documents.flatMap (·.references)).map
      (analyze config texts).registry.mention := rfl
  rw [TermReport.uses, usesOf, mentions, List.filter_map, List.map_map, List.map_map]
  refine (List.map_congr_left fun x _ => same x _).trans (congrArg _ (List.filter_congr fun x _ => ?_))
  rw [Function.comp_apply, Registry.meaning_mention]

end Glossary

namespace Analysis

/-- Where keys tell the registered definitions of a scan apart, features and terms mirror each
other: a feature uses just the terms with a reference in its document, and defines just those that
stand in it. There is an entry for each registered definition and no other, which lists in order
each reference of any document that means the term, hidden or not. -/
theorem ofScan_mirrors_terms (config : Config) (languages : LanguageSet) (generatedAt : Timestamp) (scan : Scan)
    (distinct : ((ofScan config languages generatedAt scan).terms.registry.definitions.map Definition.key).Nodup) :
    let a := ofScan config languages generatedAt scan
    (∀ id f, a.index.feature? id = some f → ∀ key,
      (key ∈ f.termsUsed ↔ ∃ e, a.index.terms.find? key = some e ∧ ∃ u ∈ e.uses, u.file = f.docPath) ∧
      (key ∈ f.termsDefined ↔ ∃ e, a.index.terms.find? key = some e ∧ e.file = f.docPath)) ∧
    (∀ key e, a.index.terms.find? key = some e → ∃ t ∈ a.terms.registry.terms, t.definition.key = key) ∧
    ∀ t ∈ a.terms.registry.terms, ∃ e, a.index.terms.find? t.definition.key = some e ∧ e.told = t.definition ∧
      e.uses.Pairwise (fun u v => u.rank ≤ v.rank) ∧
      e.uses.Perm (((a.terms.documents.flatMap (·.references)).filter fun x =>
        (a.terms.registry.meaning x.text x.file).term? = some t).map .ofReference) := by
  intro a
  have sound := sound_assemblyOf config languages scan
  have sole := Registry.sole_of_nodup distinct
  refine ⟨fun id f hf key => ?_, fun key e he => ?_, fun t ht => ?_⟩
  · obtain ⟨feature, -, entry⟩ := Assembly.entry_of_find? hf
    have doc : feature.path = f.docPath := congrArg FeatureEntry.docPath entry
    have used : (assemblyOf config languages scan).termsUsed feature.path = f.termsUsed :=
      congrArg FeatureEntry.termsUsed entry
    have defined : (assemblyOf config languages scan).termsDefined feature.path = f.termsDefined :=
      congrArg FeatureEntry.termsDefined entry
    rw [← used, ← defined, ← doc]
    exact ⟨sound.mem_termsUsed_iff sole, Assembly.mem_termsDefined_iff sole⟩
  · obtain ⟨t, ht, hk, -⟩ := (Assembly.find?_terms_iff sole).mp he
    exact ⟨t, ht, hk⟩
  · refine ⟨_, (Assembly.find?_terms_iff sole).mpr ⟨t, ht, rfl, rfl⟩, Assembly.told_termEntry t,
      Assembly.sorted_termUses, ?_⟩
    have listed := (assemblyOf config languages scan).uses_termEntry_perm t
    exact listed.trans (.of_eq (uses_analyze ..))

/-- A document that defines a term of its own under a global name, and uses both this one and another. -/
theorem ofScan_mirrors_terms_shadowed :
    let a := ofScan {} .standard ⟨0, 0, 0⟩ { docs := [
      ⟨"a.md", "---\nid: f\n---\n### [[X]]\n- scope: document\nLocal, as [[X]] is, but not [[Y]].\n"⟩,
      ⟨"glossary.md", "### [[X]]\nGlobal.\n\n### [[Y]]\nGlobal, as [[X]] is.\n"⟩] }
    (a.terms.registry.definitions.map Definition.key).Nodup ∧ ∃ f, a.index.feature? "f" = some f ∧
      (∃ e, a.index.terms.find? "a.md#X" = some e ∧ ∃ u ∈ e.uses, u.file = f.docPath) ∧
      (∃ e, a.index.terms.find? "Y" = some e ∧ ∃ u ∈ e.uses, u.file = f.docPath) ∧
      ¬ ∃ e, a.index.terms.find? "X" = some e ∧ ∃ u ∈ e.uses, u.file = f.docPath := by
  intro a
  have distinct : (a.terms.registry.definitions.map Definition.key).Nodup := by decide +kernel
  have read : (a.index.feature? "f").map (·.termsUsed.toList) = some ["Y", "a.md#X"] := by decide +kernel
  obtain ⟨f, hf, used⟩ := Option.map_eq_some_iff.mp read
  have mirrored (key : String) := ((ofScan_mirrors_terms _ _ _ _ distinct).1 "f" f hf key).1
  refine ⟨distinct, f, hf, (mirrored "a.md#X").mp ?_, (mirrored "Y").mp ?_, fun hx => ?_⟩
  · rw [← KeySet.mem_toList, used]
    decide
  · rw [← KeySet.mem_toList, used]
    decide
  · have found := (mirrored "X").mpr hx
    rw [← KeySet.mem_toList, used] at found
    exact absurd found (by decide)

end Analysis

end Interlink
