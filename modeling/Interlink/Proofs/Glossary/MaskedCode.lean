import Interlink.Proofs.Glossary.Backticks

/-!
# What masking blanks

Masking turns the bytes of the code spans of a line into blanks and leaves all others. So the runs
of backticks that are left differ in length, masking again changes nothing, and a span whose runs of
backticks stay the same only changes its width.
-/

namespace Interlink.Glossary

open Text

variable {b : List UInt8} {spans : List Stretch} {r c s : Stretch} {rs : List Stretch} {p o line : List Char}
  {ps tail tail' : List (List Char)} {k n limit inside : Nat}

/-! ## One pass over the pieces -/

def Opens (p : List Char) (rest : List (List Char)) : Prop := ticks p ≠ 0 ∧ rest.any (ticks · = ticks p)

instance : Decidable (Opens p ps) := inferInstanceAs (Decidable (_ ∧ _))

def insideAfter (inside : Nat) (p : List Char) (rest : List (List Char)) : Nat :=
  if inside = 0 then if Opens p rest then ticks p else 0 else if ticks p = inside then 0 else inside

def shownPiece (inside : Nat) (p : List Char) (rest : List (List Char)) : List Char :=
  if inside = 0 ∧ ¬ Opens p rest then p else blankOut p

theorem maskPieces_cons (inside : Nat) (p : List Char) (rest : List (List Char)) :
    maskPieces inside (p :: rest) = shownPiece inside p rest ++ maskPieces (insideAfter inside p rest) rest := by
  unfold shownPiece insideAfter Opens
  rw [maskPieces]
  by_cases h : inside = 0
  · by_cases opens : ticks p ≠ 0 ∧ rest.any (ticks · = ticks p)
    · simp only [h, opens, ne_eq, not_true_eq_false, not_false_eq_true, and_self, and_false, ↓reduceIte]
    · simp only [h, opens, ne_eq, not_true_eq_false, not_false_eq_true, and_self, ↓reduceIte]
  · simp only [h, ne_eq, not_false_eq_true, false_and, ↓reduceIte]

def blank : UInt8 := 0x20

theorem bytes_blankOut (p : List Char) : bytes (blankOut p) = List.replicate (bytes p).length blank := by
  induction p with
  | nil => rfl
  | cons c p ih =>
    have step : blankOut (c :: p) = List.replicate c.utf8Size ' ' ++ blankOut p := rfl
    rw [step, bytes_append, ih, bytes_replicate (b := blank) rfl, List.replicate_append_replicate, bytes_cons,
      List.length_append, String.length_utf8EncodeChar]

/-- What a pass over the runs knows at the place `k`: it is outside of spans, or within one that
ends at `limit`, with the nearest run that is as long as the one that opened it. -/
inductive Pass (inside limit k : Nat) (rs : List Stretch) : Prop
  | outside : inside = 0 → limit ≤ k → Pass inside limit k rs
  | within (c : Stretch) : inside ≠ 0 → rs.find? (·.length = inside) = some c → c.stop = limit →
    Pass inside limit k rs

/-- A place is blanked if it is before the end of the current span, or in a span that begins behind it. -/
def Blanked (limit : Nat) (rs : List Stretch) (k : Nat) : Prop := k < limit ∨ ∃ s ∈ spansFrom limit rs, s.Covers k

instance : Decidable (Blanked limit rs k) := inferInstanceAs (Decidable (_ ∨ _))

theorem length_of_mem_runsFrom (cut : IsCut (p :: ps)) (h : ticks p ≠ 0) (k : Nat) :
    Stretch.length ⟨k, k + (bytes p).length⟩ = ticks p := by
  rw [Stretch.length, cut.bytes_head h, List.length_replicate]
  exact Nat.add_sub_cancel_left ..

theorem find?_runsFrom_eq_some_iff (cut : IsCut ps) (hn : n ≠ 0) : (runsFrom k ps).find? (·.length = n) = some c ↔
    ∃ inner p after, ps = inner ++ p :: after ∧ ticks p = n ∧ (∀ q ∈ inner, ticks q ≠ n) ∧
      c = ⟨k + (bytes inner.flatten).length, k + (bytes inner.flatten).length + (bytes p).length⟩ := by
  induction ps generalizing k with
  | nil => simp [runsFrom]
  | cons p ps ih =>
    have later : (∃ inner q after, p :: ps = inner ++ q :: after ∧ ticks q = n ∧ (∀ q ∈ inner, ticks q ≠ n) ∧
        c = ⟨k + (bytes inner.flatten).length, k + (bytes inner.flatten).length + (bytes q).length⟩) ↔
        (ticks p = n ∧ c = ⟨k, k + (bytes p).length⟩) ∨
          ticks p ≠ n ∧ (runsFrom (k + (bytes p).length) ps).find? (·.length = n) = some c := by
      rw [ih cut.tail]
      constructor
      · rintro ⟨inner, q, after, e, hq, none, hc⟩
        cases inner with
        | nil =>
          obtain ⟨rfl, rfl⟩ := List.cons.inj e
          exact .inl ⟨hq, hc⟩
        | cons x inner =>
          obtain ⟨rfl, rfl⟩ := List.cons.inj e
          obtain ⟨hx, none⟩ := List.forall_mem_cons.mp none
          refine .inr ⟨hx, inner, q, after, rfl, hq, none, ?_⟩
          rw [hc, List.flatten_cons, bytes_append, List.length_append, ← Nat.add_assoc k]
      · rintro (⟨hp, hc⟩ | ⟨hp, inner, q, after, rfl, hq, none, hc⟩)
        · exact ⟨[], p, ps, rfl, hp, List.forall_mem_nil _, hc⟩
        · refine ⟨p :: inner, q, after, rfl, hq, List.forall_mem_cons.mpr ⟨hp, none⟩, ?_⟩
          rw [hc, List.flatten_cons, bytes_append, List.length_append, ← Nat.add_assoc k]
    rw [later]
    by_cases h : ticks p = 0
    · rw [runsFrom_text h, h]
      simp [hn.symm]
    · rw [runsFrom_run h, List.find?_cons, length_of_mem_runsFrom cut h]
      by_cases e : ticks p = n
      · simp [e, eq_comm]
      · simp [e]

theorem opens_iff (cut : IsCut (p :: ps)) (h : ticks p ≠ 0) (k : Nat) :
    Opens p ps ↔ ∃ c, (runsFrom k ps).find? (·.length = ticks p) = some c := by
  rw [Opens, and_iff_right h, List.any_eq_true]
  constructor
  · rintro ⟨q, hq, e⟩
    obtain ⟨x, found⟩ := Option.isSome_iff_exists.mp (List.find?_isSome (p := (ticks · = ticks p)).mpr ⟨q, hq, e⟩)
    obtain ⟨hx, inner, after, rfl, none⟩ := List.find?_eq_some_iff_append.mp found
    refine ⟨_, (find?_runsFrom_eq_some_iff cut.tail h).mpr ⟨inner, x, after, rfl, of_decide_eq_true hx,
      fun y hy => ?_, rfl⟩⟩
    simpa using none y hy
  · rintro ⟨c, hc⟩
    obtain ⟨inner, x, after, rfl, hx, -⟩ := (find?_runsFrom_eq_some_iff cut.tail h).mp hc
    exact ⟨x, List.mem_append_right _ List.mem_cons_self, decide_eq_true hx⟩

theorem exists_start_of_mem_spansFrom (order : InOrder rs) (h : s ∈ spansFrom limit rs) :
    ∃ r ∈ rs, r.start = s.start := by
  obtain ⟨r, c, hr, -, -, -, rfl⟩ := (mem_spansFrom_iff order).mp h
  exact ⟨r, hr, rfl⟩

structure Continues (inside limit k : Nat) (p : List Char) (ps : List (List Char)) (limit' : Nat) : Prop where
  pass : Pass (insideAfter inside p ps) limit' (k + (bytes p).length) (runsFrom (k + (bytes p).length) ps)
  here {x : Nat} : k ≤ x → x < k + (bytes p).length →
    (Blanked limit (runsFrom k (p :: ps)) x ↔ ¬ (inside = 0 ∧ ¬ Opens p ps))
  beyond {x : Nat} : k + (bytes p).length ≤ x →
    (Blanked limit (runsFrom k (p :: ps)) x ↔ Blanked limit' (runsFrom (k + (bytes p).length) ps) x)
  spans {s : Stretch} : k + (bytes p).length ≤ s.start →
    (s ∈ spansFrom limit (runsFrom k (p :: ps)) ↔ s ∈ spansFrom limit' (runsFrom (k + (bytes p).length) ps))

/-- In a span nothing begins, and the run that it waits for ends it. -/
theorem continues_within (cut : IsCut (p :: ps)) (open' : inside ≠ 0)
    (hc : (runsFrom k (p :: ps)).find? (·.length = inside) = some c) : Continues inside c.stop k p ps c.stop := by
  have width := length_bytes_pos (cut.pieces p List.mem_cons_self).1
  have order := inOrder_runsFrom cut k
  have some_byte := order.nonempty c (List.mem_of_find?_eq_some hc)
  have spans :
      spansFrom c.stop (runsFrom k (p :: ps)) = spansFrom c.stop (runsFrom (k + (bytes p).length) ps) := by
    by_cases h : ticks p = 0
    · rw [runsFrom_text h]
    · have := le_start_of_mem_runsFrom (List.mem_of_find?_eq_some hc)
      rw [runsFrom_run h, spansFrom, if_pos (by dsimp only; omega)]
  have pass : Pass (insideAfter inside p ps) c.stop (k + (bytes p).length) (runsFrom (k + (bytes p).length) ps) ∧
      k + (bytes p).length ≤ c.stop := by
    rw [insideAfter, if_neg open']
    by_cases h : ticks p = 0
    · rw [runsFrom_text h] at hc
      have := le_start_of_mem_runsFrom (List.mem_of_find?_eq_some hc)
      rw [if_neg (by omega)]
      exact ⟨.within c open' hc rfl, by omega⟩
    · rw [runsFrom_run h, List.find?_cons, length_of_mem_runsFrom cut h] at hc
      by_cases e : ticks p = inside
      · rw [decide_eq_true e] at hc
        obtain rfl := Option.some_inj.mp hc
        rw [if_pos e]
        exact ⟨.outside rfl (Nat.le_refl _), Nat.le_refl _⟩
      · rw [decide_eq_false e] at hc
        have := le_start_of_mem_runsFrom (List.mem_of_find?_eq_some hc)
        rw [if_neg e]
        exact ⟨.within c open' hc rfl, by omega⟩
  refine ⟨pass.1, fun {x} _ lt => ?_, fun {x} _ => ?_, fun {s} _ => ?_⟩
  · exact iff_of_true (.inl (Nat.lt_of_lt_of_le lt pass.2)) fun none => open' none.1
  · rw [Blanked, Blanked, spans]
  · rw [spans]

theorem continues_opens (cut : IsCut (p :: ps)) (le : limit ≤ k) (h : ticks p ≠ 0)
    (hc : (runsFrom (k + (bytes p).length) ps).find? (·.length = ticks p) = some c) :
    Continues 0 limit k p ps c.stop := by
  have width := length_bytes_pos (cut.pieces p List.mem_cons_self).1
  have order := inOrder_runsFrom cut.tail (k + (bytes p).length)
  have some_byte := order.nonempty c (List.mem_of_find?_eq_some hc)
  have later := le_start_of_mem_runsFrom (List.mem_of_find?_eq_some hc)
  have opens : Opens p ps := (opens_iff cut h _).mpr ⟨c, hc⟩
  have spans : spansFrom limit (runsFrom k (p :: ps)) =
      ⟨k, c.stop⟩ :: spansFrom c.stop (runsFrom (k + (bytes p).length) ps) := by
    rw [runsFrom_run h, spansFrom, if_neg (Nat.not_lt.mpr le), length_of_mem_runsFrom cut h, hc]
  refine ⟨?_, fun {x} ge lt => ?_, fun {x} ge => ?_, fun {s} ge => ?_⟩
  · rw [insideAfter, if_pos rfl, if_pos opens]
    exact .within c h hc rfl
  · refine iff_of_true (.inr ⟨_, spans ▸ List.mem_cons_self, ge, ?_⟩) fun none => none.2 opens
    dsimp only
    omega
  · rw [Blanked, Blanked, spans]
    simp only [List.mem_cons, exists_eq_or_imp, Stretch.Covers]
    constructor
    · rintro (lt | here | there)
      · omega
      · exact .inl here.2
      · exact .inr there
    · rintro (lt | there)
      · exact .inr (.inl ⟨by omega, lt⟩)
      · exact .inr (.inr there)
  · rw [spans, List.mem_cons, or_iff_right fun e => ?_]
    rw [e] at ge
    dsimp only at ge
    omega

theorem continues_plain (cut : IsCut (p :: ps)) (le : limit ≤ k) (plain : ¬ Opens p ps) :
    Continues 0 limit k p ps limit := by
  have width := length_bytes_pos (cut.pieces p List.mem_cons_self).1
  have spans : spansFrom limit (runsFrom k (p :: ps)) = spansFrom limit (runsFrom (k + (bytes p).length) ps) := by
    by_cases h : ticks p = 0
    · rw [runsFrom_text h]
    · have none : (runsFrom (k + (bytes p).length) ps).find? (·.length = ticks p) = none :=
        Option.eq_none_iff_forall_ne_some.mpr fun c hc => plain ((opens_iff cut h _).mpr ⟨c, hc⟩)
      rw [runsFrom_run h, spansFrom, if_neg (Nat.not_lt.mpr le), length_of_mem_runsFrom cut h, none]
  refine ⟨?_, fun {x} ge lt => ?_, fun {x} _ => ?_, fun {s} _ => ?_⟩
  · rw [insideAfter, if_pos rfl, if_neg plain]
    exact .outside rfl (by omega)
  · refine iff_of_false ?_ fun blank => blank ⟨rfl, plain⟩
    rw [Blanked, spans]
    rintro (lt' | ⟨s, hs, covers⟩)
    · omega
    · obtain ⟨r, hr, e⟩ := exists_start_of_mem_spansFrom (inOrder_runsFrom cut.tail _) hs
      have := le_start_of_mem_runsFrom hr
      have := covers.1
      omega
  · rw [Blanked, Blanked, spans]
  · rw [spans]

theorem Pass.continues (cut : IsCut (p :: ps)) (pass : Pass inside limit k (runsFrom k (p :: ps))) :
    ∃ limit', Continues inside limit k p ps limit' := by
  cases pass with
  | outside none le =>
    subst none
    by_cases opens : Opens p ps
    · obtain ⟨c, hc⟩ := (opens_iff cut opens.1 (k + (bytes p).length)).mp opens
      exact ⟨c.stop, continues_opens cut le opens.1 hc⟩
    · exact ⟨limit, continues_plain cut le opens⟩
  | within c open' hc e =>
    subst e
    exact ⟨c.stop, continues_within cut open' hc⟩

/-! ## The bytes of a masked line -/

def blanked (spans : List Stretch) (b : List UInt8) : List UInt8 :=
  b.mapIdx fun k x => if ∃ s ∈ spans, s.Covers k then blank else x

theorem mapIdx_eq_self {f : Nat → UInt8 → UInt8} (h : ∀ i < b.length, ∀ x, f i x = x) : b.mapIdx f = b := by
  refine List.mapIdx_eq_iff.mpr fun i => ?_
  cases e : b[i]? with
  | none => rfl
  | some x => rw [Option.map_some, h i (List.getElem?_eq_some_iff.mp e).1]

theorem bytes_shownPiece (f : Nat → UInt8 → UInt8) (inside : Nat)
    (hf : ∀ i < (bytes p).length, ∀ x, f i x = if inside = 0 ∧ ¬ Opens p ps then x else blank) :
    bytes (shownPiece inside p ps) = (bytes p).mapIdx f := by
  by_cases plain : inside = 0 ∧ ¬ Opens p ps
  · rw [shownPiece, if_pos plain, mapIdx_eq_self fun i hi x => (hf i hi x).trans (if_pos plain)]
  · rw [shownPiece, if_neg plain, bytes_blankOut]
    exact (List.mapIdx_eq_replicate_iff.mpr fun i hi => (hf i hi _).trans (if_neg plain)).symm

theorem bytes_maskPieces (cut : IsCut ps) (pass : Pass inside limit k (runsFrom k ps)) :
    bytes (maskPieces inside ps) =
      (bytes ps.flatten).mapIdx fun i x => if Blanked limit (runsFrom k ps) (k + i) then blank else x := by
  induction ps generalizing inside limit k with
  | nil => rfl
  | cons p ps ih =>
    obtain ⟨limit', next⟩ := pass.continues cut
    rw [maskPieces_cons, bytes_append, List.flatten_cons, bytes_append, List.mapIdx_append, ih cut.tail next.pass]
    congr 1
    · refine bytes_shownPiece _ inside fun i hi x => ?_
      rw [if_congr (next.here (by omega) (by omega)) rfl rfl, ite_not]
    · refine congrArg (List.mapIdx · _) (funext fun i => funext fun x => ?_)
      rw [Nat.add_comm i, ← Nat.add_assoc, if_congr (next.beyond (by omega)) rfl rfl]

theorem pass_zero (line : List Char) : Pass 0 0 0 (runsFrom 0 (codePieces line)) := .outside rfl (Nat.le_refl _)

theorem bytes_maskCode (line : List Char) : bytes (maskCode line) = blanked (codeSpans line) (bytes line) := by
  have masked := bytes_maskPieces (isCut_codePieces line) (pass_zero line)
  rw [flatten_codePieces] at masked
  refine masked.trans (congrArg (List.mapIdx · _) (funext fun i => funext fun x => if_congr ?_ rfl rfl))
  rw [Blanked, or_iff_right (Nat.not_lt_zero _), Nat.zero_add]
  rfl

/-! ## What is left -/

section
variable (spansOf : AreSpans (IsRun b) spans)

theorem getElem?_blanked (spans : List Stretch) (b : List UInt8) (k : Nat) :
    (blanked spans b)[k]? = if ∃ s ∈ spans, s.Covers k then b[k]?.map fun _ => blank else b[k]? := by
  rw [blanked, List.getElem?_mapIdx]
  split
  · rfl
  · exact Option.map_id'

theorem getElem?_blanked_eq_tick_iff :
    (blanked spans b)[k]? = some tick ↔ b[k]? = some tick ∧ ¬ ∃ s ∈ spans, s.Covers k := by
  rw [getElem?_blanked]
  split
  · rename_i covered
    refine iff_of_false (fun e => ?_) fun h => h.2 covered
    obtain ⟨_, -, e⟩ := Option.map_eq_some_iff.mp e
    exact absurd e (by decide)
  · rename_i free
    exact (and_iff_left free).symm

theorem IsRun.stop_le {r' : Stretch} (h : IsRun b r) (h' : IsRun b r') (lt : r.start < r'.start) :
    r.stop ≤ r'.start := by
  by_contra overlap
  exact h'.before (k := r'.start - 1) (by omega) (h.ticks ⟨by omega, by omega⟩)

/-- Of the runs behind a run that are just as long one is the nearest. -/
theorem exists_isNearest {run : Stretch → Prop} (h : run c) (later : r.stop ≤ c.start)
    (alike : c.length = r.length) :
    ∃ c, IsNearest run r c := by
  classical
  have some_start : ∃ n c, run c ∧ r.stop ≤ c.start ∧ c.length = r.length ∧ c.start = n :=
    ⟨_, c, h, later, alike, rfl⟩
  obtain ⟨c, h, later, alike, e⟩ := Nat.find_spec some_start
  exact ⟨c, h, later, alike, fun {c'} h' later' alike' =>
    e ▸ Nat.find_min' some_start ⟨c', h', later', alike', rfl⟩⟩

include spansOf

theorem ticks_of_mem (h : s ∈ spans) :
    ∃ r c, IsRun b r ∧ IsRun b c ∧ r.start = s.start ∧ c.stop = s.stop ∧ r.stop ≤ c.start := by
  obtain ⟨r, c, hr, -, near, rfl⟩ := (spansOf s).mp h
  exact ⟨r, c, hr, near.isRun, rfl, rfl, near.later⟩

/-- The runs that are left are runs of the line outside of its spans. -/
theorem isRun_of_isRun_blanked (h : IsRun (blanked spans b) r) :
    IsRun b r ∧ ∀ s ∈ spans, s.start ≤ r.start → s.stop ≤ r.start := by
  have inside {k : Nat} (hk : r.Covers k) := getElem?_blanked_eq_tick_iff.mp (h.ticks hk)
  have free : ∀ s ∈ spans, s.start ≤ r.start → s.stop ≤ r.start := fun s hs le => by
    by_contra lt
    exact (inside ⟨Nat.le_refl _, h.nonempty⟩).2 ⟨s, hs, le, Nat.not_le.mp lt⟩
  refine ⟨⟨h.nonempty, fun hk => (inside hk).1, fun {k} hk e => ?_, fun e => ?_⟩, free⟩
  · -- Before the run a span would end, but a span ends with a run.
    obtain ⟨s, hs, covers⟩ : ∃ s ∈ spans, s.Covers k :=
      by_contra fun none => h.before hk (getElem?_blanked_eq_tick_iff.mpr ⟨e, none⟩)
    obtain ⟨-, c, -, hc, -, stop, -⟩ := ticks_of_mem spansOf hs
    have := free s hs (by have := covers.1; omega)
    have ends : c.stop = r.start := by
      have := covers.2
      omega
    exact hc.after (ends ▸ (inside ⟨Nat.le_refl _, h.nonempty⟩).1)
  · obtain ⟨s, hs, covers⟩ : ∃ s ∈ spans, s.Covers r.stop :=
      by_contra fun none => h.after (getElem?_blanked_eq_tick_iff.mpr ⟨e, none⟩)
    obtain ⟨o, -, ho, -, start, -, -⟩ := ticks_of_mem spansOf hs
    have last := inside (k := r.stop - 1) ⟨by have := h.nonempty; omega, by have := h.nonempty; omega⟩
    have begins : r.stop = o.start := by
      by_contra ne
      refine last.2 ⟨s, hs, ?_, ?_⟩
      · have := covers.1
        omega
      · have := covers.2
        omega
    exact ho.before (k := r.stop - 1) (by have := h.nonempty; omega) last.1

/-- No two runs that are left are of one length: the first of them would have opened a span. -/
theorem eq_of_isRun_blanked {r' : Stretch} (h : IsRun (blanked spans b) r) (h' : IsRun (blanked spans b) r')
    (alike : r.length = r'.length) : r = r' := by
  have apart {r r' : Stretch} (h : IsRun (blanked spans b) r) (h' : IsRun (blanked spans b) r')
      (alike : r'.length = r.length) : ¬ r.start < r'.start := fun lt => by
    obtain ⟨run, free⟩ := isRun_of_isRun_blanked spansOf h
    obtain ⟨run', -⟩ := isRun_of_isRun_blanked spansOf h'
    obtain ⟨c, near⟩ := exists_isNearest run' (run.stop_le run' lt) alike
    have opens : ⟨r.start, c.stop⟩ ∈ spans :=
      (spansOf _).mpr ⟨r, c, run, fun s hs lt => free s hs (Nat.le_of_lt lt), near, rfl⟩
    have := free _ opens (Nat.le_refl _)
    have := near.later
    have := near.isRun.nonempty
    have := run.nonempty
    dsimp only at *
    omega
  have starts : r.start = r'.start :=
    Nat.le_antisymm (Nat.not_lt.mp (apart h' h alike)) (Nat.not_lt.mp (apart h h' alike.symm))
  have := h.nonempty
  have := h'.nonempty
  rw [Stretch.length, Stretch.length] at alike
  obtain ⟨start, stop⟩ := r
  obtain ⟨start', stop'⟩ := r'
  simp only [Stretch.mk.injEq]
  dsimp only at *
  omega

end

theorem codeSpans_eq_nil
    (h : ∀ r r', IsRun (bytes line) r → IsRun (bytes line) r' → r.length = r'.length → r = r') :
    codeSpans line = [] := by
  refine List.eq_nil_iff_forall_not_mem.mpr fun s hs => ?_
  obtain ⟨r, c, hr, -, near, -⟩ := (areSpans_codeSpans line s).mp hs
  obtain rfl := h c r near.isRun hr near.alike
  have := near.later
  have := hr.nonempty
  omega

theorem maskCode_maskCode (line : List Char) : maskCode (maskCode line) = maskCode line := by
  refine bytes_injective ?_
  have none : codeSpans (maskCode line) = [] := codeSpans_eq_nil fun r r' => by
    rw [bytes_maskCode]
    exact fun h h' => eq_of_isRun_blanked (areSpans_codeSpans line) h h'
  rw [bytes_maskCode (maskCode line), none]
  exact mapIdx_eq_self fun i _ x => if_neg (by simp)

end Interlink.Glossary
