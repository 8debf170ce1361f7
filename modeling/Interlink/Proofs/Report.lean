import Interlink.Finding
import Mathlib.Data.List.Nodup

/-!
# Reports

The findings of one kind in a report, and what a rule reports at its level.
-/

namespace Interlink

namespace Report

variable {r s : Report} {k : FindingKind}

theorem ofKind_append : ofKind (r ++ s) k = r.ofKind k ++ s.ofKind k := List.filter_append ..

theorem ofKind_flatMap {α : Type} {xs : List α} {report : α → Report} :
    ofKind (xs.flatMap report) k = xs.flatMap fun x => (report x).ofKind k := List.filter_flatMap

theorem ofKind_eq_self (h : ∀ f ∈ r, f.kind = k) : r.ofKind k = r :=
  List.filter_eq_self.mpr fun f hf => decide_eq_true (h f hf)

theorem ofKind_eq_nil (h : ∀ f ∈ r, f.kind ≠ k) : r.ofKind k = [] :=
  List.filter_eq_nil_iff.mpr fun f hf hk => h f hf (of_decide_eq_true hk)

theorem flatMap_check {α : Type} {xs : List α} {p : α → Prop} [DecidablePred p] {check : α → Report}
    {finding : α → Finding} (h : ∀ x ∈ xs, check x = if p x then [finding x] else []) :
    xs.flatMap check = (xs.filter p).map finding := by
  induction xs with
  | nil => rfl
  | cons x xs ih =>
    rw [List.flatMap_cons, h x List.mem_cons_self, ih fun y hy => h y (List.mem_cons_of_mem _ hy)]
    by_cases hp : p x
    · simp [hp]
    · simp [hp]

/-! ## Reports as lists -/

/-- One finding for each thing that `P` holds of, and no others. -/
def Lists {α : Type} (r : Report) (P : α → Prop) (finding : α → Finding) : Prop :=
  ∃ xs : List α, xs.Nodup ∧ (∀ x, x ∈ xs ↔ P x) ∧ r = xs.map finding

variable {α β κ : Type} {xs : List α} {key : α → κ} {check : α → Report}

theorem Lists.congr {P Q : α → Prop} {finding : α → Finding} (h : r.Lists P finding) (same : ∀ x, P x ↔ Q x) :
    r.Lists Q finding := by
  obtain ⟨xs, nodup, mem, e⟩ := h
  exact ⟨xs, nodup, fun x => (mem x).trans (same x), e⟩

theorem lists_check (distinct : (xs.map key).Nodup) {p : α → Prop} [DecidablePred p] (finding : κ → Finding)
    (h : ∀ x ∈ xs, check x = if p x then [finding (key x)] else []) :
    Lists (xs.flatMap check) (fun k => ∃ x ∈ xs, key x = k ∧ p x) finding := by
  refine ⟨(xs.filter p).map key, distinct.sublist (List.filter_sublist.map key), ?_, ?_⟩
  · intro k
    simp only [List.mem_map, List.mem_filter, decide_eq_true_eq]
    constructor
    · intro hk
      obtain ⟨x, ⟨hx, hp⟩, e⟩ := hk
      exact ⟨x, hx, e, hp⟩
    · intro hk
      obtain ⟨x, hx, e, hp⟩ := hk
      exact ⟨x, ⟨hx, hp⟩, e⟩
  · rw [flatMap_check (p := p) h, List.map_map]
    rfl

theorem lists_flatMap (distinct : (xs.map key).Nodup) {P : α → β → Prop} (finding : κ → β → Finding)
    (h : ∀ x ∈ xs, (check x).Lists (P x) (finding (key x))) :
    Lists (xs.flatMap check) (fun p : κ × β => ∃ x ∈ xs, key x = p.1 ∧ P x p.2) fun p => finding p.1 p.2 := by
  induction xs with
  | nil => exact ⟨[], List.nodup_nil, fun p => by simp, rfl⟩
  | cons x xs ih =>
    obtain ⟨fresh, distinct⟩ := List.nodup_cons.mp distinct
    obtain ⟨here, here_nodup, mem_here, here_eq⟩ := h x List.mem_cons_self
    obtain ⟨rest, rest_nodup, mem_rest, rest_eq⟩ := ih distinct fun y hy => h y (List.mem_cons_of_mem _ hy)
    refine ⟨here.map (Prod.mk (key x)) ++ rest, ?_, ?_, ?_⟩
    · apply List.nodup_append.mpr
      refine ⟨here_nodup.map fun _ _ e => (Prod.mk.inj e).2, rest_nodup, ?_⟩
      -- the key of `x` is the key of no other
      intro p hp q hq e
      obtain ⟨b, _, rfl⟩ := List.mem_map.mp hp
      obtain ⟨y, hy, e', _⟩ := (mem_rest q).mp hq
      apply fresh
      rw [← e] at e'
      exact List.mem_map.mpr ⟨y, hy, e'⟩
    · intro p
      obtain ⟨k, b⟩ := p
      rw [List.mem_append, mem_rest]
      simp only [List.mem_map, Prod.mk.injEq, mem_here, List.mem_cons]
      constructor
      · intro hp
        rcases hp with ⟨_, hb, e, rfl⟩ | ⟨y, hy, hb⟩
        · exact ⟨x, .inl rfl, e, hb⟩
        · exact ⟨y, .inr hy, hb⟩
      · intro hp
        obtain ⟨y, rfl | hy, e, hb⟩ := hp
        · exact .inl ⟨b, hb, e, rfl⟩
        · exact .inr ⟨y, hy, e, hb⟩
    · rw [List.flatMap_cons, here_eq, rest_eq, List.map_append, List.map_map]
      rfl

theorem ofKind_check {p : Prop} [Decidable p] {f : Finding} :
    ofKind (if p then [f] else []) k = if f.kind = k then if p then [f] else [] else [] := by
  unfold ofKind
  by_cases hp : p
  · by_cases hk : f.kind = k <;> simp [hp, hk]
  · simp [hp]

theorem ofKind_map {finding : α → Finding} {k' : FindingKind} (h : ∀ x, (finding x).kind = k') :
    ofKind (xs.map finding) k = if k' = k then xs.map finding else [] := by
  have kind : ∀ f ∈ xs.map finding, f.kind = k' := by
    intro f hf
    obtain ⟨x, _, rfl⟩ := List.mem_map.mp hf
    exact h x
  by_cases hk : k' = k
  · rw [if_pos hk]
    exact ofKind_eq_self fun f hf => (kind f hf).trans hk
  · rw [if_neg hk]
    exact ofKind_eq_nil fun f hf e => hk ((kind f hf).symm.trans e)

end Report

namespace RuleLevel

variable {level : RuleLevel} {k k' : FindingKind} {message : String} {locations : List Location} {s : Severity}

theorem kind_of_mem_report {f : Finding} (h : f ∈ level.report k message locations) : f.kind = k := by
  obtain ⟨_, _, rfl⟩ := List.mem_map.mp h
  rfl

theorem report_eq (h : level.severity? = some s) :
    level.report k message locations = [⟨k, s, message, locations⟩] := by
  rw [report, h]
  rfl

theorem ofKind_report : (level.report k message locations).ofKind k = level.report k message locations :=
  Report.ofKind_eq_self fun _ => kind_of_mem_report

theorem ofKind_report_of_ne (h : k ≠ k') : (level.report k message locations).ofKind k' = [] :=
  Report.ofKind_eq_nil fun _ hf e => h ((kind_of_mem_report hf).symm.trans e)

end RuleLevel

end Interlink
