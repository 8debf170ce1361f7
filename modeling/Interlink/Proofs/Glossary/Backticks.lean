import Interlink.Glossary.Markup
import Interlink.Proofs.Text.Bytes

/-!
# Runs of backticks and the spans between them

Where the runs of backticks stand among the bytes of a line, and which of them open and close code
spans: a run outside of an earlier span opens one if a later run is just as long, and the nearest
such run closes it. The pieces that a line is cut into tell the runs, and one pass over the runs
tells the spans.
-/

namespace Interlink.Glossary

open Text

structure Stretch where
  start : Nat
  stop : Nat
deriving DecidableEq

namespace Stretch

def length (s : Stretch) : Nat := s.stop - s.start

def Covers (s : Stretch) (k : Nat) : Prop := s.start ≤ k ∧ k < s.stop

instance (s : Stretch) (k : Nat) : Decidable (s.Covers k) := inferInstanceAs (Decidable (_ ∧ _))

end Stretch

def tick : UInt8 := 0x60

structure IsRun (b : List UInt8) (r : Stretch) : Prop where
  nonempty : r.start < r.stop
  ticks {k : Nat} : r.Covers k → b[k]? = some tick
  before {k : Nat} : k + 1 = r.start → b[k]? ≠ some tick
  after : b[r.stop]? ≠ some tick

/-- Of the runs behind a run that are just as long, `c` is the nearest. -/
structure IsNearest (run : Stretch → Prop) (r c : Stretch) : Prop where
  isRun : run c
  later : r.stop ≤ c.start
  alike : c.length = r.length
  nearest {c' : Stretch} : run c' → r.stop ≤ c'.start → c'.length = r.length → c.start ≤ c'.start

/-- The spans from left to right: from each run outside of the earlier spans to the nearest run
behind it that is just as long, if there is one. -/
def AreSpans (run : Stretch → Prop) (spans : List Stretch) : Prop :=
  ∀ s, s ∈ spans ↔ ∃ r c, run r ∧ (∀ s' ∈ spans, s'.start < r.start → s'.stop ≤ r.start) ∧ IsNearest run r c ∧
    s = ⟨r.start, c.stop⟩

variable {b : List UInt8} {r c s : Stretch} {rs : List Stretch} {p line : List Char} {ps : List (List Char)}
  {k limit : Nat}

/-- No two choices of spans differ, for each span only hangs on the runs and on the spans before it. -/
theorem AreSpans.mem_iff_mem {run : Stretch → Prop} {spans spans' : List Stretch} (h : AreSpans run spans)
    (h' : AreSpans run spans') (s : Stretch) : s ∈ spans ↔ s ∈ spans' := by
  have step {spans spans' : List Stretch} (h : AreSpans run spans) (h' : AreSpans run spans') {s : Stretch}
      (before : ∀ s', s'.start < s.start → s' ∈ spans' → s' ∈ spans) (hs : s ∈ spans) : s ∈ spans' := by
    obtain ⟨r, c, hr, outside, near, rfl⟩ := (h s).mp hs
    exact (h' _).mpr ⟨r, c, hr, fun s' hs' lt => outside s' (before s' lt hs') lt, near, rfl⟩
  induction e : s.start using Nat.strong_induction_on generalizing s with
  | _ n ih =>
    subst e
    exact ⟨step h h' fun s' lt => (ih _ lt s' rfl).mpr, step h' h fun s' lt => (ih _ lt s' rfl).mp⟩

/-! ## One pass over the runs -/

def spansFrom (limit : Nat) : List Stretch → List Stretch
  | [] => []
  | r :: rs =>
    if r.start < limit then spansFrom limit rs
    else match rs.find? (·.length = r.length) with
      | some c => ⟨r.start, c.stop⟩ :: spansFrom c.stop rs
      | none => spansFrom limit rs

structure InOrder (rs : List Stretch) : Prop where
  order : rs.Pairwise fun r r' => r.stop ≤ r'.start
  nonempty : ∀ r ∈ rs, r.start < r.stop

theorem InOrder.tail (h : InOrder (r :: rs)) : InOrder rs :=
  ⟨h.order.of_cons, fun r' hr => h.nonempty r' (List.mem_cons_of_mem r hr)⟩

theorem InOrder.le_start (h : InOrder (r :: rs)) {r' : Stretch} (hr : r' ∈ rs) : r.stop ≤ r'.start :=
  (List.pairwise_cons.mp h.order).1 r' hr

theorem InOrder.lt (h : InOrder (r :: rs)) {r' : Stretch} (hr : r' ∈ rs) : r.start < r'.start :=
  Nat.lt_of_lt_of_le (h.nonempty r List.mem_cons_self) (h.le_start hr)

theorem isNearest_head_iff (h : InOrder (r :: rs)) :
    IsNearest (· ∈ r :: rs) r c ↔ rs.find? (·.length = r.length) = some c := by
  rw [List.find?_eq_some_iff_append, decide_eq_true_eq]
  constructor
  · intro near
    have mem : c ∈ rs := (List.mem_cons.mp near.isRun).resolve_left fun e => by
      have := h.nonempty r List.mem_cons_self
      have := near.later
      rw [e] at this
      omega
    obtain ⟨before, after, rfl⟩ := List.append_of_mem mem
    refine ⟨near.alike, before, after, rfl, fun x hx => ?_⟩
    have order := (List.pairwise_append.mp h.tail.order).2.2 x hx c List.mem_cons_self
    have hx : x ∈ before ++ c :: after := List.mem_append_left _ hx
    have some_byte := h.tail.nonempty x hx
    rw [Bool.not_eq_true', decide_eq_false_iff_not]
    intro alike
    have := near.nearest (List.mem_cons_of_mem r hx) (h.le_start hx) alike
    omega
  · rintro ⟨alike, before, after, rfl, none_before⟩
    have mem : c ∈ before ++ c :: after := List.mem_append_right _ List.mem_cons_self
    refine ⟨List.mem_cons_of_mem r mem, h.le_start mem, alike, fun {c'} hc later alike' => ?_⟩
    rcases List.mem_cons.mp hc with rfl | hc
    · exact absurd (h.nonempty c' List.mem_cons_self) (Nat.not_lt.mpr later)
    · rcases List.mem_append.mp hc with hc | hc
      · exact absurd alike' (by simpa using none_before c' hc)
      · rcases List.mem_cons.mp hc with rfl | hc
        · exact Nat.le_refl _
        · have order := List.pairwise_append.mp h.tail.order
          have := List.rel_of_pairwise_cons order.2.1 hc
          have := h.tail.nonempty c mem
          omega

theorem isNearest_tail_iff (h : InOrder (r :: rs)) {r' : Stretch} (hr : r' ∈ rs) :
    IsNearest (· ∈ r :: rs) r' c ↔ IsNearest (· ∈ rs) r' c := by
  have not_later : ¬ r'.stop ≤ r.start := by
    have := h.lt hr
    have := h.nonempty r' (List.mem_cons_of_mem r hr)
    omega
  constructor
  · intro near
    have mem : c ∈ rs := (List.mem_cons.mp near.isRun).resolve_left fun e => not_later (e ▸ near.later)
    exact ⟨mem, near.later, near.alike, fun hc => near.nearest (List.mem_cons_of_mem r hc)⟩
  · intro near
    refine ⟨List.mem_cons_of_mem r near.isRun, near.later, near.alike, fun {c'} hc later => ?_⟩
    rcases List.mem_cons.mp hc with rfl | hc
    · exact absurd later not_later
    · exact near.nearest hc later

theorem le_start_of_mem_spansFrom (h : s ∈ spansFrom limit rs) (order : InOrder rs) : limit ≤ s.start := by
  induction rs generalizing limit with
  | nil => cases h
  | cons r rs ih =>
    rw [spansFrom] at h
    split at h
    · exact ih h order.tail
    · rename_i outside
      split at h
      · rename_i c hc
        rcases List.mem_cons.mp h with rfl | h
        · exact Nat.not_lt.mp outside
        · have := ih h order.tail
          have := order.lt (List.mem_of_find?_eq_some hc)
          have := order.tail.nonempty c (List.mem_of_find?_eq_some hc)
          omega
      · exact ih h order.tail

/-- The spans that begin at a limit or behind it are told by the runs there. -/
theorem mem_spansFrom_iff (order : InOrder rs) : s ∈ spansFrom limit rs ↔ ∃ r c, r ∈ rs ∧ limit ≤ r.start ∧
    (∀ s' ∈ spansFrom limit rs, s'.start < r.start → s'.stop ≤ r.start) ∧ IsNearest (· ∈ rs) r c ∧
    s = ⟨r.start, c.stop⟩ := by
  induction rs generalizing limit with
  | nil => simp [spansFrom]
  | cons r rs ih =>
    have ih (n : Nat) := @ih n order.tail
    -- Without a span from the first run nothing is to be told of it.
    have skip (none_here : limit ≤ r.start → ∀ c, ¬ IsNearest (· ∈ r :: rs) r c) : s ∈ spansFrom limit rs ↔
        ∃ r' c, r' ∈ r :: rs ∧ limit ≤ r'.start ∧
          (∀ s' ∈ spansFrom limit rs, s'.start < r'.start → s'.stop ≤ r'.start) ∧ IsNearest (· ∈ r :: rs) r' c ∧
          s = ⟨r'.start, c.stop⟩ := by
      rw [ih]
      constructor
      · rintro ⟨r', c, hr, le, outside, near, e⟩
        exact ⟨r', c, List.mem_cons_of_mem r hr, le, outside, (isNearest_tail_iff order hr).mpr near, e⟩
      · rintro ⟨r', c, hr, le, outside, near, e⟩
        rcases List.mem_cons.mp hr with rfl | hr
        · exact absurd near (none_here le c)
        · exact ⟨r', c, hr, le, outside, (isNearest_tail_iff order hr).mp near, e⟩
    by_cases inside : r.start < limit
    · rw [spansFrom, if_pos inside]
      exact skip fun le => absurd inside (Nat.not_lt.mpr le)
    · cases hc : rs.find? (·.length = r.length) with
      | none =>
        rw [spansFrom, if_neg inside, hc]
        exact skip fun _ c near => by
          rw [isNearest_head_iff order, hc] at near
          cases near
      | some c =>
        have hmem := List.mem_of_find?_eq_some hc
        have closes : r.start < c.stop := Nat.lt_trans (order.lt hmem) (order.tail.nonempty c hmem)
        rw [spansFrom, if_neg inside, hc]
        dsimp only
        constructor
        · intro h
          rcases List.mem_cons.mp h with rfl | h
          · refine ⟨r, c, List.mem_cons_self, Nat.not_lt.mp inside, fun s' hs lt => ?_,
              (isNearest_head_iff order).mpr hc, rfl⟩
            rcases List.mem_cons.mp hs with rfl | hs
            · exact absurd lt (Nat.lt_irrefl _)
            · have := le_start_of_mem_spansFrom hs order.tail
              omega
          · obtain ⟨r', c', hr, le, outside, near, rfl⟩ := (ih _).mp h
            refine ⟨r', c', List.mem_cons_of_mem r hr, by omega, fun s' hs => ?_,
              (isNearest_tail_iff order hr).mpr near, rfl⟩
            rcases List.mem_cons.mp hs with rfl | hs
            · exact fun _ => le
            · exact outside s' hs
        · rintro ⟨r', c', hr, -, outside, near, rfl⟩
          rcases List.mem_cons.mp hr with rfl | hr
          · rw [isNearest_head_iff order, hc] at near
            obtain rfl := Option.some_inj.mp near
            exact List.mem_cons_self
          · have le : c.stop ≤ r'.start := outside ⟨r.start, c.stop⟩ List.mem_cons_self (order.lt hr)
            refine List.mem_cons_of_mem _
              ((ih _).mpr ⟨r', c', hr, le, fun s' hs => ?_, (isNearest_tail_iff order hr).mp near, rfl⟩)
            exact outside s' (List.mem_cons_of_mem _ hs)

theorem areSpans_spansFrom (order : InOrder rs) : AreSpans (· ∈ rs) (spansFrom 0 rs) := by
  intro s
  rw [mem_spansFrom_iff order]
  simp only [Nat.zero_le, true_and]

/-! ## Runs of the pieces of a line -/

/-- Pieces of a line: a run of backticks or a text without any, and no two runs side by side. -/
structure IsCut (ps : List (List Char)) : Prop where
  pieces : ∀ p ∈ ps, p ≠ [] ∧ (p = List.replicate (ticks p) '\x60' ∨ '\x60' ∉ p)
  apart : ps.IsChain fun p q => ticks p = 0 ∨ ticks q = 0

theorem IsCut.tail (cut : IsCut (p :: ps)) : IsCut ps :=
  ⟨fun q hq => cut.pieces q (List.mem_cons_of_mem p hq), cut.apart.tail⟩

theorem ticks_of_not_mem (h : '\x60' ∉ p) : ticks p = 0 :=
  if_neg fun e => h (List.mem_of_mem_head? e)

theorem head?_of_ticks_ne_zero (h : ticks p ≠ 0) : p.head? = some '\x60' :=
  by_contra fun e => h (if_neg e)

theorem eq_replicate_of_isChain (chain : p.IsChain fun a b => (a = '\x60') = (b = '\x60'))
    (h : p.head? = some '\x60') : p = List.replicate p.length '\x60' := by
  refine List.eq_replicate_iff.mpr ⟨rfl, ?_⟩
  induction p with
  | nil => nofun
  | cons a p ih =>
    obtain rfl : a = '\x60' := Option.some_inj.mp h
    intro b hb
    rcases List.mem_cons.mp hb with rfl | hb
    · rfl
    · obtain ⟨x, p, rfl⟩ := List.exists_cons_of_ne_nil (List.ne_nil_of_mem hb)
      obtain ⟨same, chain⟩ := List.isChain_cons_cons.mp chain
      exact ih chain (by simpa using same) b hb

theorem not_mem_of_isChain (chain : p.IsChain fun a b => (a = '\x60') = (b = '\x60'))
    (h : p.head? ≠ some '\x60') : '\x60' ∉ p := by
  induction p with
  | nil => exact List.not_mem_nil
  | cons a p ih =>
    have ha : a ≠ '\x60' := fun e => h (congrArg some e)
    refine List.not_mem_cons_of_ne_of_not_mem ha.symm ?_
    cases p with
    | nil => exact List.not_mem_nil
    | cons x p =>
      obtain ⟨same, chain⟩ := List.isChain_cons_cons.mp chain
      exact ih chain fun e => ha (same ▸ Option.some_inj.mp e)

theorem flatten_codePieces (line : List Char) : (codePieces line).flatten = line := List.flatten_splitBy _ line

theorem isCut_codePieces (line : List Char) : IsCut (codePieces line) := by
  have kind {p : List Char} (hp : p ∈ codePieces line) : p = List.replicate (ticks p) '\x60' ∨ '\x60' ∉ p := by
    have chain : p.IsChain fun a b => (a = '\x60') = (b = '\x60') := by
      simpa using List.isChain_of_mem_splitBy hp
    by_cases h : p.head? = some '\x60'
    · rw [ticks, if_pos h]
      exact .inl (eq_replicate_of_isChain chain h)
    · exact .inr (not_mem_of_isChain chain h)
  refine ⟨fun p hp => ⟨List.ne_nil_of_mem_splitBy hp, kind hp⟩, ?_⟩
  have apart :=
    List.IsChain.iff_mem.mp (List.isChain_getLast_head_splitBy (fun a b => (a = '\x60') = (b = '\x60')) line)
  refine apart.imp fun p q ⟨hp, hq, hpn, hqn, differ⟩ => ?_
  by_contra both
  obtain ⟨hpt, hqt⟩ := not_or.mp both
  -- Both are runs, so the last of the one and the first of the other are backticks.
  have all : ∀ c ∈ p, c = '\x60' := (List.eq_replicate_iff.mp
    ((kind hp).resolve_right fun h => hpt (ticks_of_not_mem h))).2
  have last : p.getLast hpn = '\x60' := all _ (List.getLast_mem hpn)
  have first : q.head hqn = '\x60' :=
    Option.some_inj.mp ((List.head?_eq_some_head hqn).symm.trans (head?_of_ticks_ne_zero hqt))
  simp [last, first] at differ

def runsFrom (k : Nat) : List (List Char) → List Stretch
  | [] => []
  | p :: ps => (if ticks p = 0 then [] else [⟨k, k + (bytes p).length⟩]) ++ runsFrom (k + (bytes p).length) ps

theorem runsFrom_text (h : ticks p = 0) : runsFrom k (p :: ps) = runsFrom (k + (bytes p).length) ps := by
  rw [runsFrom, if_pos h, List.nil_append]

theorem runsFrom_run (h : ticks p ≠ 0) :
    runsFrom k (p :: ps) = ⟨k, k + (bytes p).length⟩ :: runsFrom (k + (bytes p).length) ps := by
  rw [runsFrom, if_neg h, List.singleton_append]

theorem le_start_of_mem_runsFrom (h : r ∈ runsFrom k ps) : k ≤ r.start := by
  induction ps generalizing k with
  | nil => cases h
  | cons p ps ih =>
    rcases List.mem_append.mp h with h | h
    · split at h
      · cases h
      · rw [List.mem_singleton.mp h]
    · have := ih h
      omega

theorem length_bytes_pos (h : p ≠ []) : 0 < (bytes p).length :=
  List.length_pos_iff.mpr fun e => h (bytes_injective e)

theorem inOrder_runsFrom (cut : IsCut ps) (k : Nat) : InOrder (runsFrom k ps) := by
  induction ps generalizing k with
  | nil => exact ⟨.nil, nofun⟩
  | cons p ps ih =>
    have width := length_bytes_pos (cut.pieces p List.mem_cons_self).1
    have rest := ih cut.tail (k + (bytes p).length)
    by_cases h : ticks p = 0
    · rw [runsFrom_text h]
      exact rest
    · rw [runsFrom_run h]
      refine ⟨rest.order.cons fun r hr => le_start_of_mem_runsFrom hr, fun r hr => ?_⟩
      rcases List.mem_cons.mp hr with rfl | hr
      · dsimp only
        omega
      · exact rest.nonempty r hr

theorem utf8EncodeChar_tick : String.utf8EncodeChar '\x60' = [tick] := rfl

theorem tick_not_mem_bytes (h : '\x60' ∉ p) : tick ∉ bytes p :=
  fun ht => h (mem_of_mem_bytes (a := '\x60') (by decide) ht)

theorem IsCut.bytes_head (cut : IsCut (p :: ps)) (h : ticks p ≠ 0) : bytes p = List.replicate (ticks p) tick := by
  have run := (cut.pieces p List.mem_cons_self).2.resolve_right fun h' => h (ticks_of_not_mem h')
  conv_lhs => rw [run]
  exact bytes_replicate utf8EncodeChar_tick _

theorem IsCut.tick_not_mem (cut : IsCut (p :: ps)) (h : ticks p = 0) : tick ∉ bytes p := by
  refine tick_not_mem_bytes ((cut.pieces p List.mem_cons_self).2.resolve_left fun e => ?_)
  rw [h] at e
  exact (cut.pieces p List.mem_cons_self).1 e

theorem IsCut.getElem?_zero_ne (cut : IsCut ps) (h : ∀ p ∈ ps.head?, ticks p = 0) :
    (bytes ps.flatten)[0]? ≠ some tick := by
  cases ps with
  | nil => nofun
  | cons p ps =>
    have width := length_bytes_pos (cut.pieces p List.mem_cons_self).1
    rw [List.flatten_cons, bytes_append, List.getElem?_append_left width]
    exact fun e => cut.tick_not_mem (h p rfl) (List.mem_of_getElem? e)

theorem IsRun.behind_text {t rest : List UInt8} (run : IsRun (b ++ (t ++ rest)) r) (quiet : tick ∉ t)
    (le : b.length ≤ r.start) : b.length + t.length ≤ r.start := by
  by_contra lt
  have here := run.ticks ⟨Nat.le_refl _, run.nonempty⟩
  rw [List.getElem?_append_right le, List.getElem?_append_left (by omega)] at here
  exact quiet (List.mem_of_getElem? here)

/-- Backticks between other bytes are one run, and the next begins behind them. -/
theorem isRun_of_ticks_iff {rest : List UInt8} {n : Nat} (some_tick : 0 < n) (before : b.getLast? ≠ some tick)
    (after : rest[0]? ≠ some tick) : IsRun (b ++ (List.replicate n tick ++ rest)) r ∧ b.length ≤ r.start ↔
      r = ⟨b.length, b.length + n⟩ ∨ IsRun (b ++ (List.replicate n tick ++ rest)) r ∧ b.length + n ≤ r.start := by
  have all {k : Nat} (le : b.length ≤ k) (lt : k < b.length + n) :
      (b ++ (List.replicate n tick ++ rest))[k]? = some tick := by
    rw [List.getElem?_append_right le, List.getElem?_append_left (by rw [List.length_replicate]; omega),
      List.getElem?_replicate_of_lt (by omega)]
  have ends : (b ++ (List.replicate n tick ++ rest))[b.length + n]? ≠ some tick := by
    rwa [List.getElem?_append_right (by omega), List.getElem?_append_right (by rw [List.length_replicate]; omega),
      List.length_replicate, Nat.add_sub_cancel_left, Nat.sub_self]
  constructor
  · rintro ⟨run, le⟩
    by_cases far : b.length + n ≤ r.start
    · exact .inr ⟨run, far⟩
    · have start : r.start = b.length := by
        by_contra ne
        exact run.before (k := r.start - 1) (by omega) (all (by omega) (by omega))
      have stop : r.stop = b.length + n := by
        have := run.nonempty
        rcases Nat.lt_trichotomy r.stop (b.length + n) with lt | e | lt
        · exact absurd (all (by omega) lt) run.after
        · exact e
        · exact absurd (run.ticks ⟨by omega, lt⟩) ends
      exact .inl (by rw [← stop, ← start])
  · rintro (rfl | ⟨run, le⟩)
    · refine ⟨⟨Nat.lt_add_of_pos_right some_tick, fun hk => all hk.1 hk.2, fun {k} hk => ?_, ends⟩, Nat.le_refl _⟩
      dsimp only at hk
      rw [List.getElem?_append_left (by omega)]
      rwa [List.getLast?_eq_getElem?, ← hk, Nat.add_sub_cancel] at before
    · exact ⟨run, by omega⟩

/-- The runs in the bytes of pieces, behind bytes that no run goes on from. -/
theorem isRun_and_le_iff (cut : IsCut ps) (b : List UInt8)
    (free : b.getLast? ≠ some tick ∨ ∀ p ∈ ps.head?, ticks p = 0) :
    IsRun (b ++ bytes ps.flatten) r ∧ b.length ≤ r.start ↔ r ∈ runsFrom b.length ps := by
  induction ps generalizing b with
  | nil =>
    refine ⟨fun ⟨run, le⟩ => ?_, nofun⟩
    have here := run.ticks ⟨Nat.le_refl _, run.nonempty⟩
    rw [List.flatten_nil, bytes_nil, List.append_nil, List.getElem?_eq_none le] at here
    cases here
  | cons p ps ih =>
    have width := length_bytes_pos (cut.pieces p List.mem_cons_self).1
    have ih := ih cut.tail (b ++ bytes p)
    rw [List.append_assoc, List.length_append] at ih
    rw [List.flatten_cons, bytes_append]
    by_cases h : ticks p = 0
    · have quiet := cut.tick_not_mem h
      have next : (b ++ bytes p).getLast? ≠ some tick := by
        rw [List.getLast?_append_of_ne_nil _ (List.ne_nil_of_length_pos width)]
        exact fun e => quiet (List.mem_of_getLast? e)
      rw [runsFrom_text h, ← ih (.inl next)]
      exact and_congr_right fun run => ⟨run.behind_text quiet, fun le => by omega⟩
    · have next : ∀ q ∈ ps.head?, ticks q = 0 :=
        fun q hq => ((List.isChain_cons.mp cut.apart).1 q hq).resolve_left h
      have before : b.getLast? ≠ some tick := free.resolve_right fun all => h (all p rfl)
      rw [runsFrom_run h, List.mem_cons, ← ih (.inr next), cut.bytes_head h, List.length_replicate]
      exact isRun_of_ticks_iff (Nat.pos_of_ne_zero h) before (cut.tail.getElem?_zero_ne next)

theorem isValid_of_mem_runsFrom {t : List Char} (h : r ∈ runsFrom (bytes t).length ps) :
    String.Pos.Raw.IsValid (String.ofList (t ++ ps.flatten)) ⟨r.start⟩ ∧
      String.Pos.Raw.IsValid (String.ofList (t ++ ps.flatten)) ⟨r.stop⟩ := by
  induction ps generalizing t with
  | nil => cases h
  | cons p ps ih =>
    rw [List.flatten_cons]
    rcases List.mem_append.mp h with h | h
    · split at h
      · cases h
      · rw [List.mem_singleton.mp h, ← List.length_append, ← bytes_append]
        exact ⟨isValid_length_bytes t _, List.append_assoc t p _ ▸ isValid_length_bytes (t ++ p) _⟩
    · rw [← List.length_append, ← bytes_append] at h
      exact List.append_assoc t p _ ▸ ih h

theorem isRun_iff (line : List Char) (r : Stretch) : IsRun (bytes line) r ↔ r ∈ runsFrom 0 (codePieces line) := by
  have runs := isRun_and_le_iff (r := r) (isCut_codePieces line) [] (.inl nofun)
  rwa [flatten_codePieces, List.nil_append, List.length_nil, and_iff_left (Nat.zero_le _)] at runs

def codeSpans (line : List Char) : List Stretch := spansFrom 0 (runsFrom 0 (codePieces line))

theorem isValid_of_isRun (h : IsRun (bytes line) r) : String.Pos.Raw.IsValid (String.ofList line) ⟨r.start⟩ ∧
    String.Pos.Raw.IsValid (String.ofList line) ⟨r.stop⟩ := by
  have valid := isValid_of_mem_runsFrom (t := []) ((isRun_iff line r).mp h)
  rwa [flatten_codePieces] at valid

theorem areSpans_codeSpans (line : List Char) : AreSpans (IsRun (bytes line)) (codeSpans line) := by
  have spans := areSpans_spansFrom (inOrder_runsFrom (isCut_codePieces line) 0)
  rwa [← funext fun r => propext (isRun_iff line r)] at spans

end Interlink.Glossary
