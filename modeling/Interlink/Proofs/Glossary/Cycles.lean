import Interlink.Glossary.Cycles
import Mathlib.Data.List.Chain
import Mathlib.Data.List.Nodup
import Mathlib.Logic.Relation

/-!
# What a depth-first search closes

The search enters each node once. So the nodes that are open form a path, and what it closes are
ends of this path, in the order in which nodes were entered. A step that closes nothing leads to a
node that the search has left by the time it leaves the node where the step begins. Such steps alone
never come back to their start, which is why some step of every circle closes a cycle.
-/

namespace Interlink.Glossary

open Relation (ReflTransGen TransGen)

variable {α : Type} [DecidableEq α] {steps : α → List α} {unvisited later : List α} {frames outer : List (Frame α)}
  {node next a b : α} {cycle : List α}

/-! ## Open nodes -/

def openPath (frames : List (Frame α)) : List α := (frames.map (·.1)).reverse

omit [DecidableEq α] in
@[simp] theorem openPath_cons {f : Frame α} : openPath (f :: outer) = openPath outer ++ [f.1] := by
  simp [openPath]

theorem openFrom_cases (a : α) (frames : List (Frame α)) :
    (openFrom a frames = [] ∧ a ∉ openPath frames) ∨
      ∃ before rest, openPath frames = before ++ a :: rest ∧ openFrom a frames = a :: rest := by
  show ((openPath frames).dropWhile (· ≠ a) = [] ∧ a ∉ openPath frames) ∨
    ∃ before rest, openPath frames = before ++ a :: rest ∧ (openPath frames).dropWhile (· ≠ a) = a :: rest
  generalize openPath frames = xs
  induction xs with
  | nil => exact .inl ⟨rfl, List.not_mem_nil⟩
  | cons x xs ih =>
    by_cases hx : x = a
    · subst hx
      exact .inr ⟨[], xs, rfl, by simp⟩
    · rw [List.dropWhile_cons_of_pos (by simpa using hx)]
      rcases ih with ⟨hno, ha⟩ | ⟨before, rest, rfl, hd⟩
      · exact .inl ⟨hno, by simp [Ne.symm hx, ha]⟩
      · exact .inr ⟨x :: before, rest, rfl, hd⟩

/-- Every frame keeps steps of its node. -/
def Pending (steps : α → List α) (frames : List (Frame α)) : Prop := ∀ f ∈ frames, ∀ b ∈ f.2, b ∈ steps f.1

omit [DecidableEq α] in
theorem pending_cons :
    Pending steps ((node, later) :: outer) ↔ (∀ b ∈ later, b ∈ steps node) ∧ Pending steps outer :=
  List.forall_mem_cons

omit [DecidableEq α] in
theorem pending_start (start : α) : Pending steps [(start, steps start)] := by simp [Pending]

omit [DecidableEq α] in
theorem Pending.skip (h : Pending steps ((node, next :: later) :: outer)) :
    Pending steps ((node, later) :: outer) := by
  rw [pending_cons] at h ⊢
  exact ⟨fun b hb => h.1 b (List.mem_cons_of_mem _ hb), h.2⟩

/-! ## Entries -/

def entries (steps : α → List α) : (unvisited : List α) → (frames : List (Frame α)) → List (α × α)
  | [], [] => []
  | start :: rest, [] => entries steps rest [(start, steps start)]
  | unvisited, (_, []) :: outer => entries steps unvisited outer
  | unvisited, (node, next :: later) :: outer =>
    if next ∈ unvisited then
      (node, next) :: entries steps (unvisited.erase next) ((next, steps next) :: (node, later) :: outer)
    else entries steps unvisited ((node, later) :: outer)
termination_by unvisited frames => (unvisited.length, (frames.flatMap (·.2)).length + frames.length)
decreasing_by
  · exact Prod.Lex.left _ _ (by simp)
  · exact Prod.Lex.right _ (by simp)
  · exact Prod.Lex.left _ _ (by grind [List.length_erase_of_mem, List.length_pos_of_mem])
  · exact Prod.Lex.right _ (by simp)

theorem step_of_mem_entries (pending : Pending steps frames) (h : (a, b) ∈ entries steps unvisited frames) :
    b ∈ steps a := by
  fun_induction entries steps unvisited frames with
  | case1 => cases h
  | case2 start rest ih => exact ih (pending_start start) h
  | case3 unvisited node outer ih => exact ih (pending_cons.mp pending).2 h
  | case4 unvisited node next later outer hn ih =>
    rcases List.mem_cons.mp h with h | h
    · obtain ⟨rfl, rfl⟩ := Prod.mk.inj h
      exact (pending_cons.mp pending).1 _ List.mem_cons_self
    · exact ih (pending_cons.mpr ⟨fun _ => id, pending.skip⟩) h
  | case5 unvisited node next later outer hn ih => exact ih pending.skip h

/-! ## Closed cycles -/

structure ClosedBy (cycle : List α) (a b : α) : Prop where
  last : cycle.getLast? = some a
  first : cycle.head? = some b

/-- A step to an open node closes the path from there on. -/
theorem closes_of_openFrom (hne : openFrom next ((node, later) :: outer) ≠ []) :
    openFrom next ((node, later) :: outer) <:+ openPath ((node, later) :: outer) ∧
      ClosedBy (openFrom next ((node, later) :: outer)) node next := by
  rcases openFrom_cases next ((node, later) :: outer) with ⟨hno, _⟩ | ⟨before, rest, hp, hf⟩
  · exact absurd hno hne
  · rw [hf]
    refine ⟨⟨before, hp.symm⟩, ?_, rfl⟩
    rw [openPath_cons] at hp
    have ends := congrArg List.getLast? hp
    simpa using ends.symm

/-- A closed cycle is a path of entries, with a step from its end to its start. -/
theorem linked_of_mem_cyclesFrom {entered : α → α → Prop}
    (entries_entered : ∀ a b, (a, b) ∈ entries steps unvisited frames → entered a b)
    (path : (openPath frames).IsChain entered) (pending : Pending steps frames)
    (hc : cycle ∈ cyclesFrom steps unvisited frames) :
    cycle.IsChain entered ∧ ∃ a b, ClosedBy cycle a b ∧ b ∈ steps a := by
  fun_induction cyclesFrom steps unvisited frames with
  | case1 => cases hc
  | case2 start rest ih =>
    rw [entries] at entries_entered
    exact ih entries_entered (.singleton start) (pending_start start) hc
  | case3 unvisited node outer ih =>
    rw [entries] at entries_entered
    rw [openPath_cons] at path
    exact ih entries_entered path.left_of_append (pending_cons.mp pending).2 hc
  | case4 unvisited node next later outer hn ih =>
    rw [entries, if_pos hn] at entries_entered
    refine ih (fun a b h => entries_entered a b (List.mem_cons_of_mem _ h)) ?_
      (pending_cons.mpr ⟨fun _ => id, pending.skip⟩) hc
    simp only [openPath_cons] at path ⊢
    refine List.isChain_append.mpr ⟨path, .singleton next, ?_⟩
    simpa using entries_entered node next List.mem_cons_self
  | case5 unvisited node next later outer hn ho ih =>
    rw [entries, if_neg hn] at entries_entered
    exact ih entries_entered path pending.skip hc
  | case6 unvisited node next later outer hn hne ih =>
    rw [entries, if_neg hn] at entries_entered
    rcases List.mem_cons.mp hc with rfl | hc
    · obtain ⟨hs, hb⟩ := closes_of_openFrom hne
      exact ⟨List.IsChain.suffix path hs, node, next, hb, (pending_cons.mp pending).1 next List.mem_cons_self⟩
    · exact ih entries_entered path pending.skip hc

/-- Cycles list their nodes in the order in which the search enters them, and it enters each
node by one step. -/
theorem exists_entryOrder (steps : α → List α) (unvisited : List α) (frames : List (Frame α)) :
    ∃ order : List α, order.Perm unvisited ∧
      ((entries steps unvisited frames).map (·.2)).Sublist order ∧
      ∀ c ∈ cyclesFrom steps unvisited frames, c.Sublist (openPath frames ++ order) := by
  fun_induction cyclesFrom steps unvisited frames with
  | case1 => exact ⟨[], .refl _, by simp [entries], nofun⟩
  | case2 start rest ih =>
    obtain ⟨order, hp, he, hc⟩ := ih
    rw [entries]
    exact ⟨start :: order, hp.cons start, he.cons start, hc⟩
  | case3 unvisited node outer ih =>
    obtain ⟨order, hp, he, hc⟩ := ih
    rw [entries]
    refine ⟨order, hp, he, fun c hm => (hc c hm).trans ?_⟩
    rw [openPath_cons, List.append_assoc]
    exact (List.Sublist.refl _).append (List.sublist_append_right _ _)
  | case4 unvisited node next later outer hn ih =>
    obtain ⟨order, hp, he, hc⟩ := ih
    rw [entries, if_pos hn]
    refine ⟨next :: order, (hp.cons next).trans (List.perm_cons_erase hn).symm, he.cons_cons next, fun c hm => ?_⟩
    simpa using hc c hm
  | case5 unvisited node next later outer hn ho ih =>
    rw [entries, if_neg hn]
    exact ih
  | case6 unvisited node next later outer hn hne ih =>
    obtain ⟨order, hp, he, hc⟩ := ih
    rw [entries, if_neg hn]
    refine ⟨order, hp, he, fun c hm => ?_⟩
    rcases List.mem_cons.mp hm with rfl | hm
    · exact (closes_of_openFrom hne).1.sublist.trans (List.sublist_append_left _ _)
    · exact hc c hm

/-! ## Steps that close nothing -/

def Ahead (steps : α → List α) (unvisited : List α) (frames : List (Frame α)) (a b : α) : Prop :=
  (a ∈ unvisited ∧ b ∈ steps a) ∨ ∃ f ∈ frames, f.1 = a ∧ b ∈ f.2

omit [DecidableEq α] in
theorem ahead_cons : Ahead steps unvisited ((node, later) :: outer) a b ↔
    (a = node ∧ b ∈ later) ∨ Ahead steps unvisited outer a b := by
  simp only [Ahead, List.exists_mem_cons_iff]
  rw [or_left_comm, eq_comm (a := a)]

omit [DecidableEq α] in
theorem Ahead.skip (h : Ahead steps unvisited ((node, next :: later) :: outer) a b) :
    (a = node ∧ b = next) ∨ Ahead steps unvisited ((node, later) :: outer) a b := by
  rw [ahead_cons] at h ⊢
  rcases h with ⟨rfl, h⟩ | h
  · rcases List.mem_cons.mp h with rfl | h
    · exact .inl ⟨rfl, rfl⟩
    · exact .inr (.inl ⟨rfl, h⟩)
  · exact .inr (.inr h)

theorem Ahead.enter (h : Ahead steps unvisited frames a b) (node : α) :
    Ahead steps (unvisited.erase node) ((node, steps node) :: frames) a b := by
  rw [ahead_cons]
  rcases h with ⟨ha, hb⟩ | h
  · by_cases e : a = node
    · exact .inl ⟨e, e ▸ hb⟩
    · exact .inr (.inl ⟨(List.mem_erase_of_ne e).mpr ha, hb⟩)
  · exact .inr (.inr h)

/-- An order in which the search leaves nodes: the inner ones before the outer ones, and the end of a step that
closes no cycle before its start, unless the search has left it already. -/
structure LeaveOrder (steps : α → List α) (unvisited : List α) (frames : List (Frame α))
    (order : List α) : Prop where
  perm : order.Perm (unvisited ++ frames.map (·.1))
  inner : (frames.map (·.1)).Sublist order
  entered {a b : α} : (a, b) ∈ entries steps unvisited frames → [b, a].Sublist order
  ahead {a b : α} : Ahead steps unvisited frames a b →
    (∃ c ∈ cyclesFrom steps unvisited frames, ClosedBy c a b) ∨ b ∉ order ∨ [b, a].Sublist order

theorem LeaveOrder.mem {order : List α} (h : LeaveOrder steps unvisited frames order)
    (hab : Ahead steps unvisited frames a b) : a ∈ order := by
  rw [h.perm.mem_iff, List.mem_append, List.mem_map]
  rcases hab with ⟨ha, _⟩ | ⟨f, hf, rfl, _⟩
  · exact .inl ha
  · exact .inr ⟨f, hf, rfl⟩

section
variable {start : α} {rest order : List α}

theorem LeaveOrder.restart (h : LeaveOrder steps rest [(start, steps start)] order) :
    LeaveOrder steps (start :: rest) [] order := by
  refine ⟨?_, List.nil_sublist _, fun {a b} => ?_, fun {a b} hab => ?_⟩
  · simpa using h.perm.trans List.perm_append_comm
  · rw [entries]
    exact h.entered
  · rw [cyclesFrom]
    have entered := hab.enter start
    rw [List.erase_cons_head] at entered
    exact h.ahead entered

theorem LeaveOrder.leave (h : LeaveOrder steps unvisited outer order) :
    LeaveOrder steps unvisited ((node, []) :: outer) (node :: order) := by
  refine ⟨?_, h.inner.cons_cons node, fun {a b} hab => ?_, fun {a b} hab => ?_⟩
  · exact (h.perm.cons node).trans List.perm_middle.symm
  · rw [entries] at hab
    exact (h.entered hab).cons node
  · rw [cyclesFrom]
    rcases ahead_cons.mp hab with ⟨_, hb⟩ | hab
    · cases hb
    · rcases h.ahead hab with hc | hb | hs
      · exact .inl hc
      · by_cases e : b = node
        · exact .inr (.inr (e ▸ (List.singleton_sublist.mpr (h.mem hab)).cons_cons b))
        · exact .inr (.inl (List.not_mem_cons_of_ne_of_not_mem e hb))
      · exact .inr (.inr (hs.cons node))

theorem LeaveOrder.enter (hn : next ∈ unvisited)
    (h : LeaveOrder steps (unvisited.erase next) ((next, steps next) :: (node, later) :: outer) order) :
    LeaveOrder steps unvisited ((node, next :: later) :: outer) order := by
  have within : [next, node].Sublist order :=
    (((List.nil_sublist _).cons_cons node).cons_cons next).trans h.inner
  refine ⟨?_, (List.sublist_cons_self next _).trans h.inner, fun {a b} hab => ?_, fun {a b} hab => ?_⟩
  · refine (h.perm.trans List.perm_middle).trans ?_
    exact (List.perm_cons_erase hn).symm.append_right _
  · rw [entries, if_pos hn] at hab
    rcases List.mem_cons.mp hab with e | hab
    · obtain ⟨rfl, rfl⟩ := Prod.mk.inj e
      exact within
    · exact h.entered hab
  · rw [cyclesFrom, if_pos hn]
    rcases hab.skip with ⟨rfl, rfl⟩ | hab
    · exact .inr (.inr within)
    · exact h.ahead (hab.enter next)

/-- The end of the step was left before. -/
theorem LeaveOrder.pass (hn : next ∉ unvisited) (ho : openFrom next ((node, later) :: outer) = [])
    (h : LeaveOrder steps unvisited ((node, later) :: outer) order) :
    LeaveOrder steps unvisited ((node, next :: later) :: outer) order := by
  have left : next ∉ order := by
    rcases openFrom_cases next ((node, later) :: outer) with ⟨_, hp⟩ | ⟨_, _, _, hf⟩
    · rw [h.perm.mem_iff, List.mem_append]
      simpa [hn, openPath, and_comm] using hp
    · cases ho.symm.trans hf
  refine ⟨h.perm, h.inner, fun {a b} hab => ?_, fun {a b} hab => ?_⟩
  · rw [entries, if_neg hn] at hab
    exact h.entered hab
  · rw [cyclesFrom, if_neg hn, ho]
    rcases hab.skip with ⟨rfl, rfl⟩ | hab
    · exact .inr (.inl left)
    · exact h.ahead hab

theorem LeaveOrder.close (hn : next ∉ unvisited) (hne : openFrom next ((node, later) :: outer) ≠ [])
    (h : LeaveOrder steps unvisited ((node, later) :: outer) order) :
    LeaveOrder steps unvisited ((node, next :: later) :: outer) order := by
  have closes : cyclesFrom steps unvisited ((node, next :: later) :: outer) =
      openFrom next ((node, later) :: outer) :: cyclesFrom steps unvisited ((node, later) :: outer) := by
    rw [cyclesFrom, if_neg hn]
    split
    · contradiction
    · rfl
  refine ⟨h.perm, h.inner, fun {a b} hab => ?_, fun {a b} hab => ?_⟩
  · rw [entries, if_neg hn] at hab
    exact h.entered hab
  · rw [closes]
    rcases hab.skip with ⟨rfl, rfl⟩ | hab
    · exact .inl ⟨_, List.mem_cons_self, (closes_of_openFrom hne).2⟩
    · refine (h.ahead hab).imp_left fun hc => ?_
      obtain ⟨c, hc, hb⟩ := hc
      exact ⟨c, List.mem_cons_of_mem _ hc, hb⟩

end

theorem exists_leaveOrder (steps : α → List α) (unvisited : List α) (frames : List (Frame α)) :
    ∃ order, LeaveOrder steps unvisited frames order := by
  fun_induction cyclesFrom steps unvisited frames with
  | case1 => exact ⟨[], .refl _, .refl _, by simp [entries], by simp [Ahead]⟩
  | case2 start rest ih =>
    obtain ⟨order, h⟩ := ih
    exact ⟨order, h.restart⟩
  | case3 unvisited node outer ih =>
    obtain ⟨order, h⟩ := ih
    exact ⟨node :: order, h.leave⟩
  | case4 unvisited node next later outer hn ih =>
    obtain ⟨order, h⟩ := ih
    exact ⟨order, h.enter hn⟩
  | case5 unvisited node next later outer hn ho ih =>
    obtain ⟨order, h⟩ := ih
    exact ⟨order, h.pass hn ho⟩
  | case6 unvisited node next later outer hn hne ih =>
    obtain ⟨order, h⟩ := ih
    exact ⟨order, h.close hn hne⟩

/-! ## All closed cycles -/

section
variable {nodes : List α}

theorem idxOf_lt_of_sublist {xs : List α} (hn : xs.Nodup) (h : [a, b].Sublist xs) : xs.idxOf a < xs.idxOf b := by
  obtain ⟨before, rest, rfl, ha, hb⟩ := List.cons_sublist_iff.mp h
  have later : b ∉ before := fun hx => List.disjoint_of_nodup_append hn hx (List.singleton_sublist.mp hb)
  rw [List.idxOf_append_of_mem ha, List.idxOf_append_of_notMem later]
  exact Nat.lt_of_lt_of_le (List.idxOf_lt_length_iff.mpr ha) (Nat.le_add_right _ _)

/-- Closed cycles of the same nodes are the same lists. -/
theorem eq_of_perm_of_mem_closedCycles (distinct : nodes.Nodup) {c d : List α} (hc : c ∈ closedCycles nodes steps)
    (hd : d ∈ closedCycles nodes steps) (h : c.Perm d) : c = d := by
  obtain ⟨order, hp, _, hs⟩ := exists_entryOrder steps nodes []
  have hn : order.Nodup := hp.nodup_iff.mpr distinct
  have sorted (e : List α) (he : e ∈ closedCycles nodes steps) :
      e.Pairwise fun a b => order.idxOf a < order.idxOf b :=
    List.pairwise_iff_forall_sublist.mpr fun hab => idxOf_lt_of_sublist hn (hab.trans (hs e he))
  exact h.eq_of_pairwise (fun _ _ _ _ hab hba => absurd hab (Nat.lt_asymm hba)) (sorted c hc) (sorted d hd)

theorem nodup_of_mem_closedCycles (distinct : nodes.Nodup) (hc : cycle ∈ closedCycles nodes steps) :
    cycle.Nodup ∧ ∀ a ∈ cycle, a ∈ nodes := by
  obtain ⟨order, hp, _, hs⟩ := exists_entryOrder steps nodes []
  exact ⟨(hs cycle hc).nodup (hp.nodup_iff.mpr distinct), fun a ha => hp.mem_iff.mp ((hs cycle hc).subset ha)⟩

theorem linked_of_mem_closedCycles (hc : cycle ∈ closedCycles nodes steps) :
    cycle.IsChain (fun a b => (a, b) ∈ entries steps nodes []) ∧ ∃ a b, ClosedBy cycle a b ∧ b ∈ steps a :=
  linked_of_mem_cyclesFrom (fun _ _ => id) .nil (by simp [Pending]) hc

theorem entry_unique (distinct : nodes.Nodup) {a' : α} (h : (a, b) ∈ entries steps nodes [])
    (h' : (a', b) ∈ entries steps nodes []) : a = a' := by
  obtain ⟨order, hp, he, _⟩ := exists_entryOrder steps nodes []
  exact (Prod.mk.inj (List.inj_on_of_nodup_map (he.nodup (hp.nodup_iff.mpr distinct)) h h' rfl)).1

/-- Ranks that fall along entries and along all steps that close no cycle. -/
theorem exists_rank (distinct : nodes.Nodup) (within : ∀ a ∈ nodes, ∀ b ∈ steps a, b ∈ nodes) :
    ∃ rank : α → Nat, (∀ a b, (a, b) ∈ entries steps nodes [] → rank b < rank a) ∧
      ∀ a ∈ nodes, ∀ b ∈ steps a, (∃ c ∈ closedCycles nodes steps, ClosedBy c a b) ∨ rank b < rank a := by
  obtain ⟨order, h⟩ := exists_leaveOrder steps nodes []
  have hp : order.Perm nodes := by simpa using h.perm
  have hn : order.Nodup := hp.nodup_iff.mpr distinct
  refine ⟨order.idxOf, fun a b hab => idxOf_lt_of_sublist hn (h.entered hab), fun a ha b hb => ?_⟩
  refine (h.ahead (.inl ⟨ha, hb⟩)).imp_right fun hx => ?_
  rcases hx with hno | hs
  · exact absurd (hp.mem_iff.mpr (within a ha b hb)) hno
  · exact idxOf_lt_of_sublist hn hs

omit [DecidableEq α] in
theorem reaches_of_isChain {r : α → α → Prop} (path : cycle.IsChain r) (hb : ClosedBy cycle a b) {x : α}
    (hx : x ∈ cycle) : ReflTransGen r b x ∧ ReflTransGen r x a := by
  constructor
  · refine path.induction (ReflTransGen r b) _ (fun _ _ hxy hp => hp.tail hxy) (fun hne => ?_) x hx
    obtain rfl : cycle.head hne = b := Option.some.inj ((List.head?_eq_some_head hne).symm.trans hb.first)
    exact .refl
  · refine path.backwards_induction (ReflTransGen r · a) _ (fun _ _ hxy hp => hp.head hxy) (fun hne => ?_) x hx
    obtain rfl : cycle.getLast hne = a := Option.some.inj ((List.getLast?_eq_some_getLast hne).symm.trans hb.last)
    exact .refl

theorem isChain_steps_of_mem_closedCycles (hc : cycle ∈ closedCycles nodes steps) :
    cycle.IsChain fun a b => b ∈ steps a :=
  (linked_of_mem_closedCycles hc).1.imp fun _ _ h => step_of_mem_entries (by simp [Pending]) h

section
variable (distinct : nodes.Nodup) (within : ∀ a ∈ nodes, ∀ b ∈ steps a, b ∈ nodes)
include distinct within

/-- A circle of steps is noticed: some closed cycle lies in the same part of the graph. -/
theorem exists_closed_within (ha : a ∈ nodes) (h : TransGen (fun a b => b ∈ steps a) a a) :
    ∃ c ∈ closedCycles nodes steps,
      ∀ x ∈ c, ReflTransGen (fun a b => b ∈ steps a) a x ∧ ReflTransGen (fun a b => b ∈ steps a) x a := by
  obtain ⟨rank, _, falls⟩ := exists_rank distinct within
  refine Classical.byContradiction fun hno => ?_
  have down (x y : α) (hax : ReflTransGen (fun a b => b ∈ steps a) a x) (hx : x ∈ nodes) (hy : y ∈ steps x)
      (hya : ReflTransGen (fun a b => b ∈ steps a) y a) : rank y < rank x := by
    refine (falls x hx y hy).resolve_left fun hc => ?_
    obtain ⟨c, hc, hb⟩ := hc
    refine hno ⟨c, hc, fun z hz => ?_⟩
    obtain ⟨hyz, hzx⟩ := reaches_of_isChain (isChain_steps_of_mem_closedCycles hc) hb hz
    exact ⟨(hax.tail hy).trans hyz, hzx.trans (.head hy hya)⟩
  have lower (x : α) (hx : TransGen (fun a b => b ∈ steps a) a x)
      (hxa : ReflTransGen (fun a b => b ∈ steps a) x a) : x ∈ nodes ∧ rank x < rank a := by
    induction hx with
    | single hs => exact ⟨within a ha _ hs, down a _ .refl ha hs hxa⟩
    | tail hp hs ih =>
      obtain ⟨hy, hlt⟩ := ih (.head hs hxa)
      exact ⟨within _ hy _ hs, Nat.lt_trans (down _ _ hp.to_reflTransGen hy hs hxa) hlt⟩
  exact Nat.lt_irrefl _ (lower a h .refl).2

/-- Of two steps there and back again one closes a cycle. -/
theorem exists_closed_of_mutual (ha : a ∈ nodes) (hab : b ∈ steps a) (hba : a ∈ steps b) :
    ∃ c ∈ closedCycles nodes steps, ClosedBy c a b ∨ ClosedBy c b a := by
  obtain ⟨rank, _, falls⟩ := exists_rank distinct within
  rcases falls a ha b hab with ⟨c, hc, hb⟩ | hlt
  · exact ⟨c, hc, .inl hb⟩
  · rcases falls b (within a ha b hab) a hba with ⟨c, hc, hb⟩ | hgt
    · exact ⟨c, hc, .inr hb⟩
    · exact absurd hlt (Nat.lt_asymm hgt)

/-- Two nodes form a closed cycle, in this order, if the search enters the second from the first. -/
theorem pair_mem_closedCycles_iff (ha : a ∈ nodes) (hab : b ∈ steps a) (hba : a ∈ steps b) :
    [a, b] ∈ closedCycles nodes steps ↔ (a, b) ∈ entries steps nodes [] := by
  constructor
  · intro h
    exact List.isChain_pair.mp (linked_of_mem_closedCycles h).1
  · intro he
    obtain ⟨rank, falls, rises⟩ := exists_rank distinct within
    obtain ⟨c, hc, hb⟩ := (rises b (within a ha b hab) a hba).resolve_right (Nat.lt_asymm (falls a b he))
    obtain ⟨path, _⟩ := linked_of_mem_closedCycles hc
    have once := (nodup_of_mem_closedCycles distinct hc).1
    -- what stands before `b` is the node from which `b` was entered, and that is the start
    obtain ⟨front, rfl⟩ := List.getLast?_eq_some_iff.mp hb.last
    rcases List.eq_nil_or_concat front with rfl | ⟨before, p, rfl⟩
    · obtain rfl : b = a := by simpa using hb.first
      exact absurd (falls b b he) (Nat.lt_irrefl _)
    · have hp : (p, b) ∈ entries steps nodes [] := by
        simpa using (List.isChain_append.mp path).2.2
      obtain rfl := entry_unique distinct hp he
      cases before with
      | nil => exact hc
      | cons x before =>
        obtain rfl : x = p := by simpa using hb.first
        simp at once

end

end

end Interlink.Glossary
