import Interlink.Proofs.Glossary.Circles
import Mathlib.Data.List.Permutation

/-!
# Terms that relate to each other

Two such terms always share a reported cycle. They are reported as a cycle of their own just in case
the search enters one of them straight from the other. It cannot do otherwise where no third term
lies on a circle with them; where one does, the way through it may come first, and then the order of
the glossary decides.
-/

namespace Interlink.Glossary

open Relation (ReflTransGen TransGen)

/-- The report has a cycle of the two terms and no others. -/
def TermReport.FlagsPair (report : TermReport) (t u : Term) : Prop := ∃ c ∈ report.cycles, c.Perm [t, u]

namespace Registry

structure Mutual (r : Registry) (t u : Term) : Prop where
  distinct : t ≠ u
  there : r.Relates t u
  back : r.Relates u t

def Enters (r : Registry) (t u : Term) : Prop := (t, u) ∈ entries r.relatedTo r.terms []

variable {r : Registry} {t u : Term}

theorem exists_pair_iff : (∃ c ∈ r.cycles, c.Perm [t, u]) ↔
    [t, u] ∈ closedCycles r.terms r.relatedTo ∨ [u, t] ∈ closedCycles r.terms r.relatedTo := by
  constructor
  · intro h
    obtain ⟨c, hc, hp⟩ := h
    obtain ⟨closed, hm, rfl⟩ := mem_cycles.mp hc
    rcases List.perm_pair.mp ((isRotated_rotated closed).perm.symm.trans hp) with rfl | rfl
    · exact .inl hm
    · exact .inr hm
  · intro h
    rcases h with h | h
    · exact ⟨_, mem_cycles.mpr ⟨_, h, rfl⟩, (isRotated_rotated _).perm⟩
    · exact ⟨_, mem_cycles.mpr ⟨_, h, rfl⟩, (isRotated_rotated _).perm.trans (.swap t u [])⟩

section
variable (h : r.Orderly) (ht : t ∈ r.terms) (m : r.Mutual t u)
include h ht m

theorem Mutual.exists_pair_iff_enters : (∃ c ∈ r.cycles, c.Perm [t, u]) ↔ r.Enters t u ∨ r.Enters u t := by
  have hu : u ∈ r.terms := h.mem_terms_of_relates m.there
  have there : u ∈ r.relatedTo t := mem_relatedTo.mpr m.there
  have back : t ∈ r.relatedTo u := mem_relatedTo.mpr m.back
  rw [exists_pair_iff, pair_mem_closedCycles_iff r.nodup_terms h.relatedTo_subset ht there back,
    pair_mem_closedCycles_iff r.nodup_terms h.relatedTo_subset hu back there]
  rfl

/-- Both terms are in one closed cycle, and all of it lies on circles with them. -/
theorem Mutual.exists_closed : ∃ c ∈ closedCycles r.terms r.relatedTo, t ∈ c ∧ u ∈ c ∧
    ∀ w ∈ c, ReflTransGen r.Relates t w ∧ ReflTransGen r.Relates w t := by
  obtain ⟨c, hc, ends⟩ := exists_closed_of_mutual r.nodup_terms h.relatedTo_subset ht (mem_relatedTo.mpr m.there)
    (mem_relatedTo.mpr m.back)
  have path := isChain_of_mem_closedCycles hc
  rcases ends with ends | ends
  · refine ⟨c, hc, List.mem_of_getLast? ends.last, List.mem_of_head? ends.first, fun w hw => ?_⟩
    obtain ⟨from_u, to_t⟩ := reaches_of_isChain path ends hw
    exact ⟨.head m.there from_u, to_t⟩
  · refine ⟨c, hc, List.mem_of_head? ends.first, List.mem_of_getLast? ends.last, fun w hw => ?_⟩
    obtain ⟨from_t, to_u⟩ := reaches_of_isChain path ends hw
    exact ⟨from_t, to_u.tail m.back⟩

theorem Mutual.exists_shared : ∃ c ∈ r.cycles, t ∈ c ∧ u ∈ c := by
  obtain ⟨closed, hc, ht, hu, _⟩ := m.exists_closed h ht
  have same := isRotated_rotated closed
  exact ⟨rotated closed, mem_cycles.mpr ⟨closed, hc, rfl⟩, same.mem_iff.mpr ht, same.mem_iff.mpr hu⟩

theorem Mutual.exists_pair_of_alone
    (alone : ∀ w, ReflTransGen r.Relates t w → ReflTransGen r.Relates w t → w = t ∨ w = u) :
    ∃ c ∈ r.cycles, c.Perm [t, u] := by
  obtain ⟨closed, hc, ht, hu, within⟩ := m.exists_closed h ht
  have distinct := (nodup_of_mem_closedCycles r.nodup_terms hc).1
  have pair : [t, u].Nodup := by simpa using m.distinct
  have perm : closed.Perm [t, u] := by
    refine (List.perm_ext_iff_of_nodup distinct pair).mpr fun w => ⟨fun hw => ?_, fun hw => ?_⟩
    · obtain ⟨there, back⟩ := within w hw
      simpa using alone w there back
    · rcases List.mem_pair.mp hw with rfl | rfl
      · exact ht
      · exact hu
  exact ⟨rotated closed, mem_cycles.mpr ⟨closed, hc, rfl⟩, (isRotated_rotated closed).perm.trans perm⟩

end

/-- Of two terms that relate to each other, the report of any definitions has a cycle of their own
just in case the search enters one from the other; it has one that they share in any case, and one
of their own if no third term lies on a circle with them. -/
theorem flagsPair_validate_iff (ds : List Definition) (rules : TermRules) (references : List Reference)
    (ht : t ∈ (ofList ds).terms) (m : (ofList ds).Mutual t u) :
    let r := ofList ds
    let report := r.validate rules references
    (report.FlagsPair t u ↔ r.Enters t u ∨ r.Enters u t) ∧
    (∃ c ∈ report.cycles, t ∈ c ∧ u ∈ c) ∧
    ((∀ w, ReflTransGen r.Relates t w → ReflTransGen r.Relates w t → w = t ∨ w = u) → report.FlagsPair t u) := by
  have h := orderly_ofList ds
  exact ⟨m.exists_pair_iff_enters h ht, m.exists_shared h ht, m.exists_pair_of_alone h ht⟩

/-- The way through the third term comes last. -/
theorem flagsPair_validate_before :
    let a : Definition := ⟨"A", "a", .concept, .global, [], ["B", "C"], "x", "a.md", 1⟩
    let b : Definition := { a with name := "B", related := ["A"] }
    let c : Definition := { a with name := "C", related := ["B"] }
    let r := ofList [a, c, b]
    r.Mutual ⟨0, a⟩ ⟨2, b⟩ ∧ r.Relates ⟨0, a⟩ ⟨1, c⟩ ∧ r.Relates ⟨1, c⟩ ⟨2, b⟩ ∧
      (r.validate {} []).FlagsPair ⟨0, a⟩ ⟨2, b⟩ := by
  intro a b c r
  have terms : r.terms = [⟨0, a⟩, ⟨1, c⟩, ⟨2, b⟩] := by decide +kernel
  have ofA : r.relatedTo ⟨0, a⟩ = [⟨2, b⟩, ⟨1, c⟩] := by decide +kernel
  have ofB : r.relatedTo ⟨2, b⟩ = [⟨0, a⟩] := by decide +kernel
  have ofC : r.relatedTo ⟨1, c⟩ = [⟨2, b⟩] := by decide +kernel
  have m : r.Mutual ⟨0, a⟩ ⟨2, b⟩ := ⟨by simp, mem_relatedTo.mp (by simp [ofA]), mem_relatedTo.mp (by simp [ofB])⟩
  have enters : r.Enters ⟨0, a⟩ ⟨2, b⟩ := by simp [Enters, entries, terms, ofA]
  exact ⟨m, mem_relatedTo.mp (by simp [ofA]), mem_relatedTo.mp (by simp [ofC]),
    (flagsPair_validate_iff [a, c, b] {} [] (by simp [r, terms]) m).1.mpr (.inl enters)⟩

/-- The way through the third term comes first. -/
theorem not_flagsPair_validate_after :
    let a : Definition := ⟨"A", "a", .concept, .global, [], ["C", "B"], "x", "a.md", 1⟩
    let b : Definition := { a with name := "B", related := ["A"] }
    let c : Definition := { a with name := "C", related := ["B"] }
    let r := ofList [a, c, b]
    ¬ ∀ t ∈ r.terms, ∀ u ∈ r.terms, r.Mutual t u → (r.validate {} []).FlagsPair t u := by
  intro a b c r claim
  have terms : r.terms = [⟨0, a⟩, ⟨1, c⟩, ⟨2, b⟩] := by decide +kernel
  have ofA : r.relatedTo ⟨0, a⟩ = [⟨1, c⟩, ⟨2, b⟩] := by decide +kernel
  have ofB : r.relatedTo ⟨2, b⟩ = [⟨0, a⟩] := by decide +kernel
  have ofC : r.relatedTo ⟨1, c⟩ = [⟨2, b⟩] := by decide +kernel
  have m : r.Mutual ⟨0, a⟩ ⟨2, b⟩ := ⟨by simp, mem_relatedTo.mp (by simp [ofA]), mem_relatedTo.mp (by simp [ofB])⟩
  have closed : closedCycles r.terms r.relatedTo = [[⟨0, a⟩, ⟨1, c⟩, ⟨2, b⟩]] := by
    simp [closedCycles, cyclesFrom, openFrom, terms, ofA, ofB, ofC]
  have pair := exists_pair_iff.mp (claim _ (by simp [terms]) _ (by simp [terms]) m)
  simp [closed] at pair

end Registry

end Interlink.Glossary
