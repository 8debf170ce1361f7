import Interlink.Glossary.Validation
import Interlink.Proofs.Glossary.Cycles
import Interlink.Proofs.Glossary.Registry
import Interlink.Proofs.Listing
import Mathlib.Data.Finset.Max
import Mathlib.Data.List.Cycle
import Mathlib.Data.List.TakeWhile

/-!
# Circles of relations

A term relates to what its related names mean in its document. Every cycle that is reported is a
circle of such relations, and every part of the glossary in which relations run in circles has one
reported. No circle is reported twice, wherever one begins to read it.
-/

namespace Interlink.Glossary

open Relation (ReflTransGen TransGen)
open Text

/-! ## Rotation -/

section
variable {cycle : List Term}

theorem isRotated_rotated (cycle : List Term) : rotated cycle ~r cycle := by
  have whole : rotated cycle ~r cycle.takeWhile _ ++ cycle.dropWhile _ := List.isRotated_append
  rwa [List.takeWhile_append_dropWhile] at whole

theorem least_of_mem_head?_rotated (hne : cycle ≠ []) {t u : Term} (ht : t ∈ (rotated cycle).head?)
    (hu : u ∈ cycle) :
    t.rankKey ≤ u.rankKey := by
  obtain ⟨least, hm, hl⟩ := cycle.toFinset.exists_min_image Term.rankKey (List.toFinset_nonempty_iff _ |>.mpr hne)
  have found : cycle.dropWhile (fun t => !cycle.all fun u => t.rankKey ≤ u.rankKey) ≠ [] := by
    intro hx
    have none := List.dropWhile_eq_nil_iff.mp hx least (List.mem_toFinset.mp hm)
    simp only [Bool.not_eq_true', List.all_eq_false, decide_eq_true_eq] at none
    obtain ⟨u, hu, hlt⟩ := none
    exact hlt (hl u (List.mem_toFinset.mpr hu))
  have first := List.head?_dropWhile_not (fun t => !cycle.all fun u => t.rankKey ≤ u.rankKey) cycle
  rw [rotated, List.head?_append_of_ne_nil _ found] at ht
  rw [ht] at first
  simp only [Bool.not_eq_false', List.all_eq_true, decide_eq_true_eq] at first
  exact first u hu

end

namespace Registry

/-! ## Relations -/

def Relates (r : Registry) (t u : Term) : Prop :=
  ∃ name ∈ t.definition.related, r.meaning name t.definition.file = .visible u

variable {r : Registry} {t u : Term} {c : List Term}

theorem mem_relatedTo : u ∈ r.relatedTo t ↔ r.Relates t u := by
  rw [relatedTo, List.mem_eraseDups, List.mem_filterMap]
  refine exists_congr fun name => and_congr_right fun _ => ?_
  cases r.meaning name t.definition.file <;> simp

theorem relates_eq (r : Registry) : r.Relates = fun t u => u ∈ r.relatedTo t :=
  funext fun _ => funext fun _ => propext mem_relatedTo.symm

theorem Orderly.mem_terms_of_relates (h : r.Orderly) (hr : r.Relates t u) : u ∈ r.terms := by
  obtain ⟨name, _, e⟩ := hr
  exact h.mem_terms_of_meaning (by rw [e]; rfl)

theorem Orderly.relatedTo_subset (h : r.Orderly) (t : Term) (_ : t ∈ r.terms) : ∀ u ∈ r.relatedTo t, u ∈ r.terms :=
  fun _ hu => h.mem_terms_of_relates (mem_relatedTo.mp hu)

/-! ## Circles -/

structure Circle (r : Registry) (c : List Term) : Prop where
  nonempty : c ≠ []
  registered : ∀ t ∈ c, t ∈ r.terms
  distinct : c.Nodup
  linked : (c ++ c.take 1).IsChain r.Relates

theorem isChain_closed_iff {R : Term → Term → Prop} (hne : c ≠ []) :
    (c ++ c.take 1).IsChain R ↔ Cycle.Chain R c := by
  cases c with
  | nil => exact absurd rfl hne
  | cons t c => exact (Cycle.chain_coe_cons R t c).symm

theorem Circle.of_isRotated {d : List Term} (h : r.Circle c) (hd : d ~r c) : r.Circle d := by
  have nonempty : d ≠ [] := fun e => h.nonempty (List.perm_nil.mp (e ▸ hd.perm.symm))
  refine ⟨nonempty, fun t ht => h.registered t (hd.mem_iff.mp ht), hd.nodup_iff.mpr h.distinct, ?_⟩
  rw [isChain_closed_iff nonempty, Cycle.coe_eq_coe.mpr hd, ← isChain_closed_iff h.nonempty]
  exact h.linked

theorem isChain_closed_iff_closedBy {R : Term → Term → Prop} (hne : c ≠ []) :
    (c ++ c.take 1).IsChain R ↔ c.IsChain R ∧ ∃ t u, ClosedBy c t u ∧ R t u := by
  rw [List.isChain_append]
  refine and_congr_right fun _ => ?_
  cases c with
  | nil => exact absurd rfl hne
  | cons first rest =>
    constructor
    · intro h
      exact ⟨_, first, ⟨List.getLast?_eq_some_getLast hne, rfl⟩,
        h.2 _ (List.getLast?_eq_some_getLast hne) first rfl⟩
    · intro h
      obtain ⟨t, u, ends, hr⟩ := h
      refine ⟨.singleton first, fun last hl next hn => ?_⟩
      obtain rfl := Option.some.inj (hl.symm.trans ends.last)
      obtain rfl := Option.some.inj (ends.first.symm.trans hn)
      exact hr

theorem Circle.transGen (h : r.Circle c) (ht : t ∈ c) : TransGen r.Relates t t := by
  obtain ⟨path, last, first, ends, hr⟩ := (isChain_closed_iff_closedBy h.nonempty).mp h.linked
  obtain ⟨from_first, to_last⟩ := reaches_of_isChain path ends ht
  exact (TransGen.tail' to_last hr).trans_left from_first

theorem isChain_of_mem_closedCycles (hc : c ∈ closedCycles r.terms r.relatedTo) : c.IsChain r.Relates := by
  rw [relates_eq]
  exact isChain_steps_of_mem_closedCycles hc

theorem circle_of_mem_closedCycles (hc : c ∈ closedCycles r.terms r.relatedTo) : r.Circle c := by
  obtain ⟨_, t, u, ends, hu⟩ := linked_of_mem_closedCycles hc
  obtain ⟨distinct, registered⟩ := nodup_of_mem_closedCycles r.nodup_terms hc
  have nonempty : c ≠ [] := fun e => nomatch (e ▸ ends.first)
  refine ⟨nonempty, registered, distinct, (isChain_closed_iff_closedBy nonempty).mpr ?_⟩
  exact ⟨isChain_of_mem_closedCycles hc, t, u, ends, mem_relatedTo.mp hu⟩

/-! ## Reported cycles -/

theorem mem_cycles : c ∈ r.cycles ↔ ∃ closed ∈ closedCycles r.terms r.relatedTo, rotated closed = c := by
  rw [cycles, List.mem_mergeSort, List.mem_eraseDups, List.mem_map]

theorem circle_of_mem_cycles (hc : c ∈ r.cycles) : r.Circle c := by
  obtain ⟨closed, hm, rfl⟩ := mem_cycles.mp hc
  exact (circle_of_mem_closedCycles hm).of_isRotated (isRotated_rotated closed)

theorem eq_of_isRotated_of_mem_cycles {d : List Term} (hc : c ∈ r.cycles) (hd : d ∈ r.cycles) (h : c ~r d) :
    c = d := by
  obtain ⟨closed, hm, rfl⟩ := mem_cycles.mp hc
  obtain ⟨other, hm', rfl⟩ := mem_cycles.mp hd
  have same : closed.Perm other :=
    (isRotated_rotated closed).perm.symm.trans (h.perm.trans (isRotated_rotated other).perm)
  rw [eq_of_perm_of_mem_closedCycles r.nodup_terms hm hm' same]

theorem pairwise_not_isRotated_cycles : r.cycles.Pairwise fun c d => ¬ c ~r d := by
  have once : r.cycles.Nodup := (List.mergeSort_perm ..).nodup_iff.mpr (nodup_eraseDups _)
  exact List.Pairwise.imp_of_mem (fun hc hd hne h => hne (eq_of_isRotated_of_mem_cycles hc hd h)) once

theorem Orderly.exists_cycle_within (h : r.Orderly) (ht : t ∈ r.terms) (circle : TransGen r.Relates t t) :
    ∃ c ∈ r.cycles, ∀ u ∈ c, ReflTransGen r.Relates t u ∧ ReflTransGen r.Relates u t := by
  rw [relates_eq] at circle ⊢
  obtain ⟨closed, hc, hx⟩ := exists_closed_within r.nodup_terms h.relatedTo_subset ht circle
  exact ⟨rotated closed, mem_cycles.mpr ⟨closed, hc, rfl⟩,
    fun u hu => hx u ((isRotated_rotated closed).mem_iff.mp hu)⟩

theorem least_of_mem_cycles (hc : c ∈ r.cycles) (ht : t ∈ c.head?) (hu : u ∈ c) :
    lowered t.name ≤ lowered u.name := by
  obtain ⟨closed, hm, rfl⟩ := mem_cycles.mp hc
  exact least_of_mem_head?_rotated (circle_of_mem_closedCycles hm).nonempty ht
    ((isRotated_rotated closed).mem_iff.mp hu)

/-- What is reported of the relations of any definitions are circles, one at least in every part of the
glossary in which relations run in circles, and none where they never do. No circle is reported twice, from
whatever term one reads it. Each begins with a least name, and they come in the order of their names. -/
theorem cycles_ofList (ds : List Definition) :
    let r := ofList ds
    (∀ c ∈ r.cycles, r.Circle c) ∧
    (∀ t ∈ r.terms, TransGen r.Relates t t →
      ∃ c ∈ r.cycles, ∀ u ∈ c, ReflTransGen r.Relates t u ∧ ReflTransGen r.Relates u t) ∧
    (r.cycles = [] ↔ ∀ t ∈ r.terms, ¬ TransGen r.Relates t t) ∧
    r.cycles.Pairwise (fun c d => ¬ c ~r d) ∧
    (∀ c ∈ r.cycles, ∀ t ∈ c.head?, ∀ u ∈ c, lowered t.name ≤ lowered u.name) ∧
    r.cycles.Pairwise fun c d => c.map (lowered ·.name) ≤ d.map (lowered ·.name) := by
  intro r
  have h : r.Orderly := orderly_ofList ds
  refine ⟨fun _ => circle_of_mem_cycles, fun t => h.exists_cycle_within, ?_, pairwise_not_isRotated_cycles,
    fun c hc t ht u => least_of_mem_cycles hc ht, pairwise_mergeSort_listPrecedes (List.map Term.rankKey) _⟩
  constructor
  · intro none t ht circle
    obtain ⟨c, hc, _⟩ := h.exists_cycle_within ht circle
    rw [none] at hc
    cases hc
  · intro none
    refine List.eq_nil_iff_forall_not_mem.mpr fun c hc => ?_
    have circle := circle_of_mem_cycles hc
    obtain ⟨t, ht⟩ := List.exists_mem_of_ne_nil c circle.nonempty
    exact none t (circle.registered t ht) (circle.transGen ht)

end Registry

end Interlink.Glossary
