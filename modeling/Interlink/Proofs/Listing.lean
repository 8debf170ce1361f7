import Interlink.Table
import Mathlib.Algebra.Ring.Nat
import Mathlib.Data.Finset.Card
import Mathlib.Data.List.Lex
import Mathlib.Data.String.Basic

/-!
# Listings

What is listed once and in order. The order of lists of texts is the one of the dictionary, which is
linear, so a sorted listing is sorted by it whatever came in.
-/

namespace Interlink

theorem nodup_eraseDups {α : Type} [BEq α] [LawfulBEq α] (xs : List α) : xs.eraseDups.Nodup := by
  match xs with
  | [] => exact .nil
  | x :: xs =>
    rw [List.eraseDups_cons, List.nodup_cons]
    refine ⟨fun hx => ?_, nodup_eraseDups _⟩
    simpa using List.of_mem_filter (List.mem_eraseDups.mp hx)
termination_by xs.length
decreasing_by exact Nat.lt_succ_of_le (List.length_filter_le _ _)

theorem listPrecedes_iff {a b : List String} : listPrecedes a b = true ↔ a ≤ b := by
  rw [← not_lt]
  fun_induction listPrecedes a b with
  | case1 b => simp
  | case2 x xs => simp
  | case3 as x bs ih => rw [ih, List.cons_lt_cons_self]
  | case4 x as y bs hne =>
    rw [List.cons_lt_cons_iff]
    grind

theorem pairwise_mergeSort_listPrecedes {α : Type} (texts : α → List String) (xs : List α) :
    (xs.mergeSort fun a b => listPrecedes (texts a) (texts b)).Pairwise fun a b => texts a ≤ texts b := by
  have trans (a b c : α) (hab : listPrecedes (texts a) (texts b) = true)
      (hbc : listPrecedes (texts b) (texts c) = true) :
      listPrecedes (texts a) (texts c) = true :=
    listPrecedes_iff.mpr (le_trans (listPrecedes_iff.mp hab) (listPrecedes_iff.mp hbc))
  have total (a b : α) : (listPrecedes (texts a) (texts b) || listPrecedes (texts b) (texts a)) = true := by
    rw [Bool.or_eq_true, listPrecedes_iff, listPrecedes_iff]
    exact le_total (texts a) (texts b)
  exact (List.pairwise_mergeSort trans total xs).imp listPrecedes_iff.mp

theorem pairwise_lt_mergeSort {α : Type} (text : α → String) {xs : List α} (distinct : (xs.map text).Nodup) :
    ((xs.mergeSort fun a b => text a ≤ text b).map text).Pairwise (· < ·) := by
  have ordered := @List.pairwise_mergeSort α (fun a b => text a ≤ text b)
    (fun a b c hab hbc => by simpa using String.le_trans (by simpa using hab) (by simpa using hbc))
    (fun a b => by simpa using String.le_total (text a) (text b)) xs
  have apart := ((List.mergeSort_perm xs fun a b => text a ≤ text b).map text).nodup_iff.mpr distinct
  rw [List.pairwise_map]
  refine (ordered.and (List.pairwise_map.mp apart)).imp fun {a b} h => ?_
  exact Std.lt_of_le_of_ne (by simpa using h.1) h.2

theorem pairwise_mergeSort_stable {α : Type} {le : α → α → Bool} {R : α → α → Prop}
    (trans : ∀ a b c, le a b = true → le b c = true → le a c = true)
    (total : ∀ a b, (le a b || le b a) = true) {xs : List α} (h : xs.Pairwise R) :
    (xs.mergeSort le).Pairwise fun a b => le a b = true ∧ (le b a = true → R a b) := by
  induction xs with
  | nil => simp
  | cons x xs ih =>
    obtain ⟨before, rest⟩ := List.pairwise_cons.mp h
    -- the first of the list goes before all that it does not have to give way to
    obtain ⟨l₁, l₂, sorted, sorted_rest, above⟩ := List.mergeSort_cons trans total x xs
    have ordered := List.pairwise_mergeSort trans total (x :: xs)
    have mem_rest {b : α} (hb : b ∈ l₂) : b ∈ xs :=
      List.mem_mergeSort.mp (sorted_rest ▸ List.mem_append_right l₁ hb)
    rw [sorted] at ordered ⊢
    obtain ⟨_, behind, across⟩ := List.pairwise_append.mp ordered
    obtain ⟨left, right, apart⟩ := List.pairwise_append.mp (sorted_rest ▸ ih rest)
    refine List.pairwise_append.mpr ⟨left, List.pairwise_cons.mpr ⟨fun b hb => ?_, right⟩, fun a ha b hb => ?_⟩
    · exact ⟨(List.pairwise_cons.mp behind).1 b hb, fun _ => before b (mem_rest hb)⟩
    · rcases List.mem_cons.mp hb with rfl | hb
      · exact ⟨across a ha b List.mem_cons_self, fun back => absurd back (by simpa using above a ha)⟩
      · exact apart a ha b hb

theorem eq_of_sorted {xs ys : List String} (hx : xs.Pairwise (· < ·)) (hy : ys.Pairwise (· < ·))
    (h : ∀ k, k ∈ xs ↔ k ∈ ys) : xs = ys :=
  congrArg KeySet.toList (KeySet.ext_mem (s := ⟨xs, hx⟩) (t := ⟨ys, hy⟩) h)

/-! ## Counts -/

theorem Table.size_eq_card {β : Type} (t : Table β) : t.size = t.keys.toFinset.card := by
  rw [List.toFinset_card_of_nodup t.nodup_keys, keys, List.length_map, size]

theorem Table.total_eq_sum {β : Type} (t : Table β) (g : β → Nat) :
    t.total g = (t.toList.map fun e => g e.2).sum := by
  rw [total, values, List.foldl_map, List.sum_eq_foldl_nat, List.foldl_map]

/-! ## Partitions -/

section
variable {μ τ : Type} [DecidableEq τ] {means : μ → Option τ} {terms : List τ} (nodup : terms.Nodup) (ms : List μ)
  (known : ∀ m ∈ ms, ∀ t, means m = some t → t ∈ terms)

include nodup known

/-- Things that mean a term of a list are listed under just one of the terms. -/
theorem flatMap_filter_perm :
    (terms.flatMap fun t => ms.filter (means · = some t)).Perm (ms.filter fun m => (means m).isSome) := by
  induction ms with
  | nil => simp
  | cons m ms ih =>
    have rest := ih fun x hx => known x (List.mem_cons_of_mem _ hx)
    cases hm : means m with
    | none => simpa [hm] using rest
    | some u =>
      have split := List.perm_cons_erase (known m List.mem_cons_self u hm)
      have others : (terms.erase u).flatMap (fun t => (m :: ms).filter (means · = some t)) =
          (terms.erase u).flatMap fun t => ms.filter (means · = some t) := by
        refine List.flatMap_congr fun t ht => List.filter_cons_of_neg ?_
        rw [hm, decide_eq_true_eq, Option.some.injEq]
        exact fun e => nodup.not_mem_erase (e ▸ ht)
      have own : (m :: ms).filter (means · = some u) = m :: ms.filter (means · = some u) :=
        List.filter_cons_of_pos (decide_eq_true hm)
      have some_m : (m :: ms).filter (fun x => (means x).isSome) = m :: ms.filter fun x => (means x).isSome :=
        List.filter_cons_of_pos (by rw [hm]; rfl)
      refine (split.flatMap_right _).trans ?_
      rw [List.flatMap_cons, own, others, some_m, List.cons_append]
      exact ((split.flatMap_right _).symm.trans rest).cons m

/-- Every one of some things that means a term of a list is counted with just one of them. -/
theorem sum_length_filter :
    (terms.map fun t => (ms.filter (means · = some t)).length).sum =
      (ms.filter fun m => (means m).isSome).length := by
  rw [← (flatMap_filter_perm nodup ms known).length_eq, List.length_flatMap]

end

end Interlink
