import Interlink.Reach
import Mathlib.Logic.Relation

/-!
# Soundness and completeness of the search

A search meets what paths lead to. While it runs, the paths that count are those through nodes still unmet: a
path that comes back to a node met before is replaced by its part after that node.
-/

namespace Interlink

variable {α : Type} [DecidableEq α] {steps : α → List α}

open Relation (ReflTransGen)

def StepIn (steps : α → List α) (unmet : List α) (a b : α) : Prop := b ∈ steps a ∧ b ∈ unmet

omit [DecidableEq α] in
theorem StepIn.mono {u v : List α} (h : ∀ x, x ∈ u → x ∈ v) (a b : α) : StepIn steps u a b → StepIn steps v a b :=
  fun hab => ⟨hab.1, h b hab.2⟩

/-- A path through `unmet` ends at `a` or, after its last visit of `a`, avoids `a`. -/
theorem eq_or_avoids {a s x : α} {unmet queue : List α} (hs : s ∈ a :: queue) (hu : s ∈ unmet)
    (hp : ReflTransGen (StepIn steps unmet) s x) :
    x = a ∨ ∃ t ∈ queue ++ steps a, t ∈ unmet.erase a ∧ ReflTransGen (StepIn steps (unmet.erase a)) t x := by
  have other {y : α} (hy : y ∈ unmet) : y = a ∨ y ∈ unmet.erase a :=
    Classical.or_iff_not_imp_left.mpr fun hne => (List.mem_erase_of_ne hne).mpr hy
  induction hp with
  | refl =>
    rcases other hu with rfl | hu'
    · exact .inl rfl
    · rcases List.mem_cons.mp hs with rfl | hs
      · exact .inl rfl
      · exact .inr ⟨s, List.mem_append_left _ hs, hu', .refl⟩
  | @tail y z _ hyz ih =>
    rcases other hyz.2 with rfl | hz
    · exact .inl rfl
    · rcases ih with rfl | ⟨t, ht, hu', hp'⟩
      · exact .inr ⟨z, List.mem_append_right _ hyz.1, hz, .refl⟩
      · exact .inr ⟨t, ht, hu', hp'.tail ⟨hyz.1, hz⟩⟩

theorem mem_met {unmet queue : List α} {x : α} :
    x ∈ met steps unmet queue ↔ ∃ s ∈ queue, s ∈ unmet ∧ ReflTransGen (StepIn steps unmet) s x := by
  fun_induction met steps unmet queue with
  | case1 => simp
  | case2 unmet a queue ha ih =>
    rw [List.mem_cons, ih]
    constructor
    · intro hx
      rcases hx with rfl | ⟨s, hs, hu, hp⟩
      · exact ⟨x, List.mem_cons_self, ha, .refl⟩
      · have hp' := ReflTransGen.mono (StepIn.mono fun _ => List.mem_of_mem_erase) _ _ hp
        have hu' := List.mem_of_mem_erase hu
        rcases List.mem_append.mp hs with hs | hs
        · exact ⟨s, List.mem_cons_of_mem _ hs, hu', hp'⟩
        · exact ⟨a, List.mem_cons_self, ha, .head ⟨hs, hu'⟩ hp'⟩
    · intro hx
      obtain ⟨s, hs, hu, hp⟩ := hx
      exact eq_or_avoids hs hu hp
  | case3 unmet a queue ha ih =>
    rw [ih]
    constructor
    · intro hx
      obtain ⟨s, hs, h⟩ := hx
      exact ⟨s, List.mem_cons_of_mem _ hs, h⟩
    · intro hx
      obtain ⟨s, hs, hu, hp⟩ := hx
      rcases List.mem_cons.mp hs with rfl | hs
      · exact absurd hu ha
      · exact ⟨s, hs, hu, hp⟩

/-- Where steps stay within the nodes, what is reached is what a path leads to. -/
theorem mem_reachedFrom {nodes starts : List α} {x : α} (hc : ∀ a b, b ∈ steps a → b ∈ nodes) :
    x ∈ reachedFrom nodes steps starts ↔
      ∃ s ∈ starts, s ∈ nodes ∧ ReflTransGen (fun a b => b ∈ steps a) s x := by
  have e : StepIn steps nodes = fun a b => b ∈ steps a := by
    funext a b
    exact propext (and_iff_left_of_imp (hc a b))
  rw [reachedFrom, mem_met, e]

end Interlink
