import Interlink.Proofs.Listing
import Interlink.Proofs.TermQuery

/-!
# Entries of terms

An index keeps its terms under keys that are put together from paths and names. As long as no two keys run
together, every term has an entry of its own, which tells all that its definition does and every reference that
means it. A private term's key may run together with a global name, or with the key of another document.
-/

namespace Interlink

open Text Glossary

/-! ## Keys -/

namespace Glossary.Registry

/-- No private term is kept under a global name, or under the key of another document's term. -/
def KeysApart (r : Registry) : Prop :=
  ∀ t ∈ r.terms, t.definition.scope = .document → ∀ u ∈ r.terms,
    (u.definition.scope = .global → t.definition.file ++ "#" ++ t.name ≠ u.name) ∧
    (u.definition.scope = .document → t.definition.file ≠ u.definition.file →
      t.definition.file ++ "#" ++ t.name ≠ u.definition.file ++ "#" ++ u.name)

variable {r : Registry} {t u : Term}

theorem key_global (h : t.definition.scope = .global) : t.definition.key = t.name := by
  rw [Definition.key, Definition.onlyIn?, h]
  rfl

theorem key_private (h : t.definition.scope = .document) :
    t.definition.key = t.definition.file ++ "#" ++ t.name := by
  rw [Definition.key, Definition.onlyIn?, h]
  rfl

theorem mem_scope_global (ht : t ∈ r.terms) (h : t.definition.scope = .global) : t ∈ r.scope none :=
  mem_scope.mpr ⟨ht, by rw [Definition.onlyIn?, h]⟩

theorem mem_scope_private (ht : t ∈ r.terms) (h : t.definition.scope = .document) :
    t ∈ r.scope (some t.definition.file) :=
  mem_scope.mpr ⟨ht, by rw [Definition.onlyIn?, h]⟩

/-- Within a scope names tell terms apart, so only keys of different scopes can run together. -/
theorem Orderly.eq_of_key_iff (h : r.Orderly) :
    (∀ t ∈ r.terms, ∀ u ∈ r.terms, t.definition.key = u.definition.key → t = u) ↔ r.KeysApart := by
  constructor
  · intro sole t ht hp u hu
    refine ⟨fun hg e => ?_, fun hq hne e => ?_⟩
    · obtain rfl := sole t ht u hu (by rw [key_private hp, key_global hg, e])
      rw [hp] at hg
      cases hg
    · obtain rfl := sole t ht u hu (by rw [key_private hp, key_private hq, e])
      exact hne rfl
  · intro apart t ht u hu e
    cases hp : t.definition.scope with
    | global =>
      cases hq : u.definition.scope with
      | global =>
        rw [key_global hp, key_global hq] at e
        exact h.distinct (mem_scope_global ht hp) (mem_scope_global hu hq) (congrArg key e)
      | document =>
        rw [key_global hp, key_private hq] at e
        exact absurd e.symm ((apart u hu hq t ht).1 hp)
    | document =>
      cases hq : u.definition.scope with
      | global =>
        rw [key_private hp, key_global hq] at e
        exact absurd e ((apart t ht hp u hu).1 hq)
      | document =>
        rw [key_private hp, key_private hq] at e
        by_cases hf : t.definition.file = u.definition.file
        · have names : t.name = u.name := by
            rw [hf] at e
            exact String.append_right_inj _ |>.mp e
          exact h.distinct (mem_scope_private ht hp) (hf ▸ mem_scope_private hu hq) (congrArg key names)
        · exact absurd e ((apart t ht hp u hu).2 hq hf)

end Glossary.Registry

/-! ## Entries -/

def TermEntry.told (e : TermEntry) : Definition :=
  ⟨e.name, e.id, e.kind, e.scope, e.aliases, e.related, e.definition, e.file, e.line⟩

def TermUse.ofReference (x : Reference) : TermUse := ⟨x.file, x.line, x.text⟩

/-- An index with one entry for each term of the registry, which tells what the term's definition tells
and lists the references that mean the term, so that it counts every reference that means some term. -/
structure Analysis.KeepsTerms (a : Analysis) : Prop where
  sole : ∀ t ∈ a.terms.registry.terms, ∀ u ∈ a.terms.registry.terms, t.definition.key = u.definition.key → t = u
  size : a.index.terms.size = a.terms.registry.size
  kept : ∀ t ∈ a.terms.registry.terms, ∃ e, a.index.terms.find? t.definition.key = some e ∧
    e.told = t.definition ∧ e.uses.Perm ((a.terms.report.uses t).map .ofReference) ∧ e.useCount = e.uses.length
  counted : a.index.terms.total (·.useCount) =
    (a.terms.report.mentions.filter fun m => m.meaning.term?.isSome).length

namespace Assembly

variable {a : Assembly} {generatedAt : Timestamp} {t : Term}

theorem told_termEntry (t : Term) : (a.termEntry t).told = t.definition := rfl

theorem uses_termEntry_perm (t : Term) :
    (a.termEntry t).uses.Perm ((a.terms.report.uses t).map .ofReference) := List.mergeSort_perm ..

theorem useCount_termEntry (t : Term) :
    (a.termEntry t).useCount = (a.terms.report.mentions.filter (·.meaning.term? = some t)).length := by
  have all := (a.uses_termEntry_perm t).length_eq
  rw [List.length_map] at all
  exact all.trans (List.length_map _)

section
variable (sole : ∀ t ∈ a.terms.registry.terms, ∀ u ∈ a.terms.registry.terms,
  t.definition.key = u.definition.key → t = u)

include sole

theorem terms_index_perm : (a.index generatedAt).terms.toList.Perm
    (a.terms.registry.terms.map fun t => (t.definition.key, a.termEntry t)) := by
  rw [terms_index]
  refine Table.ofList_perm ?_
  rw [List.map_map]
  exact a.terms.registry.nodup_terms.map_on fun t ht u hu e => sole t ht u hu e

theorem size_terms_index : (a.index generatedAt).terms.size = a.terms.registry.size := by
  refine (terms_index_perm sole).length_eq.trans ?_
  rw [List.length_map, Registry.terms, List.length_mapIdx]
  rfl

theorem total_useCount_index (h : a.Sound) : (a.index generatedAt).terms.total (·.useCount) =
    (a.terms.report.mentions.filter fun m => m.meaning.term?.isSome).length := by
  rw [Table.total_eq_sum, ((terms_index_perm sole).map _).sum_nat, List.map_map,
    ← sum_length_filter a.terms.registry.nodup_terms _ fun m hm t => h.mentioned hm]
  exact congrArg List.sum (List.map_congr_left fun t _ => useCount_termEntry t)

end

end Assembly

namespace Analysis

/-- The index of any documents keeps all their terms just in case no keys run together. -/
theorem keepsTerms_ofScan_iff (config : Config) (languages : LanguageSet) (generatedAt : Timestamp) (scan : Scan) :
    (ofScan config languages generatedAt scan).KeepsTerms ↔
      (ofScan config languages generatedAt scan).terms.registry.KeysApart := by
  have sound := sound_assemblyOf config languages scan
  have orderly : (assemblyOf config languages scan).terms.registry.Orderly := Registry.orderly_ofList _
  constructor
  · intro h
    exact orderly.eq_of_key_iff.mp h.sole
  · intro apart
    have sole := orderly.eq_of_key_iff.mpr apart
    refine ⟨sole, Assembly.size_terms_index sole, fun t ht => ?_, Assembly.total_useCount_index sole sound⟩
    exact ⟨_, Assembly.find?_terms_index ht fun u hu e => sole u hu t ht e, Assembly.told_termEntry t,
      Assembly.uses_termEntry_perm t, rfl⟩

/-- A global name that reads as a path and a name takes the entry of the private term of that name. -/
theorem not_keepsTerms_hash :
    let a := ofScan {} {} ⟨0, 0, 0⟩
      { docs := [⟨"a.md", "### [[X]]\n- scope: document\nLocal, as [[X]] is.\n"⟩,
          ⟨"glossary.md", "### [[a.md#X]]\nGlobal, as [[a.md#X]] is.\n"⟩] }
    ¬ a.KeepsTerms ∧ a.terms.registry.size = 2 ∧ a.index.stats.terms = 1 ∧ a.index.stats.termUses = 1 := by
  intro a
  have one : a.index.terms.size = 1 := by decide +kernel
  have two : a.terms.registry.size = 2 := by decide +kernel
  refine ⟨fun h => ?_, two, one, by decide +kernel⟩
  have same := h.size
  rw [one, two] at same
  cases same

end Analysis

end Interlink
