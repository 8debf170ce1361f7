import Interlink.Proofs.Glossary.MaskedCode

/-!
# Changing the text of a code span

A pass over the pieces of a line only asks later pieces for the lengths of their runs. So a span may
change its text as long as its runs of backticks stay the same, and all that masking leaves of the
line but the width of the span stays the same as well. It may not lose the text between two runs,
which become one.
-/

namespace Interlink.Glossary

open Text

variable {spans spans' : List Stretch} {r c s : Stretch} {p o : List Char}
  {ps tail tail' inner after : List (List Char)}
  {t t' u v : List Char} {k n limit inside : Nat}

/-! ## A pass over the first pieces -/

def insideAt (inside : Nat) (tail : List (List Char)) : List (List Char) → Nat
  | [] => inside
  | p :: ps => insideAt (insideAfter inside p (ps ++ tail)) tail ps

def shownPieces (inside : Nat) (tail : List (List Char)) : List (List Char) → List Char
  | [] => []
  | p :: ps => shownPiece inside p (ps ++ tail) ++ shownPieces (insideAfter inside p (ps ++ tail)) tail ps

theorem maskPieces_append (inside : Nat) (ps tail : List (List Char)) :
    maskPieces inside (ps ++ tail) = shownPieces inside tail ps ++ maskPieces (insideAt inside tail ps) tail := by
  induction ps generalizing inside with
  | nil => rfl
  | cons p ps ih => rw [List.cons_append, maskPieces_cons, ih, shownPieces, insideAt, List.append_assoc]

theorem length_bytes_shownPieces (inside : Nat) (ps tail : List (List Char)) :
    (bytes (shownPieces inside tail ps)).length = (bytes ps.flatten).length := by
  induction ps generalizing inside with
  | nil => rfl
  | cons p ps ih =>
    have width : (bytes (shownPiece inside p (ps ++ tail))).length = (bytes p).length := by
      rw [shownPiece]
      split
      · rfl
      · rw [bytes_blankOut, List.length_replicate]
    rw [shownPieces, bytes_append, List.length_append, width, ih, List.flatten_cons, bytes_append,
      List.length_append]

def Alike (tail tail' : List (List Char)) : Prop :=
  ∀ n, n ≠ 0 → tail.any (ticks · = n) = tail'.any (ticks · = n)

theorem Alike.opens_iff (alike : Alike tail tail') : Opens p (ps ++ tail) ↔ Opens p (ps ++ tail') := by
  refine and_congr_right fun h => ?_
  rw [List.any_append, List.any_append, alike _ h]

theorem Alike.insideAfter_eq (alike : Alike tail tail') (inside : Nat) :
    insideAfter inside p (ps ++ tail) = insideAfter inside p (ps ++ tail') := by
  simp only [insideAfter, alike.opens_iff]

theorem Alike.insideAt_eq (alike : Alike tail tail') (inside : Nat) (ps : List (List Char)) :
    insideAt inside tail ps = insideAt inside tail' ps := by
  induction ps generalizing inside with
  | nil => rfl
  | cons p ps ih => rw [insideAt, insideAt, alike.insideAfter_eq, ih]

theorem Alike.shownPieces_eq (alike : Alike tail tail') (inside : Nat) (ps : List (List Char)) :
    shownPieces inside tail ps = shownPieces inside tail' ps := by
  induction ps generalizing inside with
  | nil => rfl
  | cons p ps ih =>
    rw [shownPieces, shownPieces, alike.insideAfter_eq, ih]
    simp only [shownPiece, alike.opens_iff]

/-- The pass behind the first pieces, where the same spans are still to come. -/
theorem Pass.append (cut : IsCut (ps ++ tail)) (pass : Pass inside limit k (runsFrom k (ps ++ tail))) :
    ∃ limit', Pass (insideAt inside tail ps) limit' (k + (bytes ps.flatten).length)
        (runsFrom (k + (bytes ps.flatten).length) tail) ∧
      ∀ s : Stretch, k + (bytes ps.flatten).length ≤ s.start → (s ∈ spansFrom limit (runsFrom k (ps ++ tail)) ↔
        s ∈ spansFrom limit' (runsFrom (k + (bytes ps.flatten).length) tail)) := by
  induction ps generalizing inside limit k with
  | nil => exact ⟨limit, pass, fun s _ => Iff.rfl⟩
  | cons p ps ih =>
    obtain ⟨limit₁, next⟩ := pass.continues cut
    obtain ⟨limit₂, rest, spans⟩ := ih cut.tail next.pass
    rw [List.flatten_cons, bytes_append, List.length_append, ← Nat.add_assoc]
    exact ⟨limit₂, rest, fun s le => (next.spans (by omega)).trans (spans s le)⟩

/-! ## The pieces of a span -/

theorem blankOut_append (t t' : List Char) : blankOut (t ++ t') = blankOut t ++ blankOut t' := List.flatMap_append

structure IsSpanOf (o : List Char) (inner : List (List Char)) (c : List Char) : Prop where
  opens : ticks o ≠ 0
  closes : ticks c = ticks o
  between : ∀ q ∈ inner, ticks q ≠ ticks o

theorem maskPieces_within (h : n ≠ 0) (between : ∀ q ∈ inner, ticks q ≠ n) (hc : ticks p = n) :
    maskPieces n (inner ++ p :: after) = blankOut (inner ++ [p]).flatten ++ maskPieces 0 after := by
  have step (q : List Char) (rest : List (List Char)) :
      maskPieces n (q :: rest) = blankOut q ++ maskPieces (if ticks q = n then 0 else n) rest := by
    rw [maskPieces_cons, shownPiece, if_neg fun e => h e.1, insideAfter, if_neg h]
  induction inner with
  | nil => rw [List.nil_append, step, if_pos hc, List.nil_append, List.flatten_singleton]
  | cons q inner ih =>
    obtain ⟨hq, between⟩ := List.forall_mem_cons.mp between
    rw [List.cons_append, step, if_neg hq, ih between, List.cons_append, List.flatten_cons, blankOut_append,
      List.append_assoc]

theorem IsSpanOf.maskPieces_eq {c : List Char} (h : IsSpanOf o inner c) (after : List (List Char)) :
    maskPieces 0 (o :: (inner ++ c :: after)) = blankOut (o :: (inner ++ [c])).flatten ++ maskPieces 0 after := by
  have opens : Opens o (inner ++ c :: after) :=
    ⟨h.opens, List.any_eq_true.mpr ⟨c, List.mem_append_right _ List.mem_cons_self, decide_eq_true h.closes⟩⟩
  rw [maskPieces_cons, shownPiece, if_neg fun e => e.2 opens, insideAfter, if_pos rfl, if_pos opens,
    maskPieces_within h.opens h.between h.closes, List.flatten_cons, blankOut_append, List.append_assoc]

/-- A span that begins with the first of the pieces. -/
theorem exists_isSpanOf (cut : IsCut ps) (h : s ∈ spansFrom limit (runsFrom k ps)) (start : s.start = k) :
    ∃ o inner c after, ps = o :: (inner ++ c :: after) ∧ IsSpanOf o inner c ∧
      s.stop = k + (bytes (o :: (inner ++ [c])).flatten).length := by
  cases ps with
  | nil => cases h
  | cons o ps =>
    have width := length_bytes_pos (cut.pieces o List.mem_cons_self).1
    have order := inOrder_runsFrom cut.tail (k + (bytes o).length)
    -- All other spans begin behind the first piece.
    have later {limit : Nat} (h : s ∈ spansFrom limit (runsFrom (k + (bytes o).length) ps)) : False := by
      obtain ⟨r, hr, e⟩ := exists_start_of_mem_spansFrom order h
      have := le_start_of_mem_runsFrom hr
      omega
    by_cases ho : ticks o = 0
    · exact (later (runsFrom_text ho ▸ h)).elim
    · rw [runsFrom_run ho, spansFrom] at h
      split at h
      · exact (later h).elim
      · split at h
        · rename_i c hc
          rcases List.mem_cons.mp h with rfl | h
          · rw [length_of_mem_runsFrom cut ho] at hc
            obtain ⟨inner, c, after, rfl, closes, between, rfl⟩ := (find?_runsFrom_eq_some_iff cut.tail ho).mp hc
            refine ⟨o, inner, c, after, rfl, ⟨ho, closes, between⟩, ?_⟩
            simp only [List.flatten_cons, List.flatten_append, List.flatten_nil, List.append_nil, bytes_append,
              List.length_append, Nat.add_assoc]
          · exact (later h).elim
        · exact (later h).elim

theorem Pass.eq_zero (pass : Pass inside limit k (runsFrom k ps)) (order : InOrder (runsFrom k ps))
    (h : s ∈ spansFrom limit (runsFrom k ps)) (start : s.start = k) : inside = 0 := by
  have le := le_start_of_mem_spansFrom h order
  cases pass with
  | outside none => exact none
  | within c _ hc e =>
    have := order.nonempty c (List.mem_of_find?_eq_some hc)
    have := le_start_of_mem_runsFrom (List.mem_of_find?_eq_some hc)
    omega

/-! ## The runs of a text -/

def tickRuns (ps : List (List Char)) : List Nat := (ps.map ticks).filter (· ≠ 0)

def runLengths (t : List Char) : List Nat := tickRuns (codePieces t)

theorem tickRuns_cons (h : ticks p ≠ 0) (ps : List (List Char)) : tickRuns (p :: ps) = ticks p :: tickRuns ps := by
  rw [tickRuns, List.map_cons, List.filter_cons_of_pos (by simpa using h), tickRuns]

theorem tickRuns_append (ps ps' : List (List Char)) : tickRuns (ps ++ ps') = tickRuns ps ++ tickRuns ps' := by
  rw [tickRuns, List.map_append, List.filter_append, tickRuns, tickRuns]

theorem mem_tickRuns_iff : n ∈ tickRuns ps ↔ n ≠ 0 ∧ ∃ q ∈ ps, ticks q = n := by
  simp only [tickRuns, List.mem_filter, List.mem_map, decide_eq_true_eq]
  exact and_comm

theorem alike_of_tickRuns (same : tickRuns ps' = tickRuns ps) (after : List (List Char)) :
    Alike (ps ++ after) (ps' ++ after) := by
  intro n hn
  have told (ps : List (List Char)) : ps.any (ticks · = n) = decide (n ∈ tickRuns ps) := by
    rw [Bool.eq_iff_iff, List.any_eq_true, decide_eq_true_eq, mem_tickRuns_iff, and_iff_right hn]
    simp only [decide_eq_true_eq]
  rw [List.any_append, List.any_append, told ps, told ps', same]

theorem ticks_ne_zero_of_mem (cut : IsCut ps) (hp : p ∈ ps) (h : '\x60' ∈ p) : ticks p ≠ 0 := fun h0 => by
  have run := (cut.pieces p hp).2.resolve_right (not_not.mpr h)
  rw [h0] at run
  exact (cut.pieces p hp).1 run

theorem exists_isSpanOf_of_runLengths {c : List Char} (h : IsSpanOf o inner c) (first : t'.head? = some '\x60')
    (last : t'.getLast? = some '\x60') (same : runLengths t' = tickRuns (o :: (inner ++ [c]))) :
    ∃ o' inner' c', codePieces t' = o' :: (inner' ++ [c']) ∧ IsSpanOf o' inner' c' := by
  have cut := isCut_codePieces t'
  have flat := flatten_codePieces t'
  rw [runLengths, tickRuns_cons h.opens, tickRuns_append, tickRuns_cons (h.closes ▸ h.opens), h.closes] at same
  cases hp : codePieces t' with
  | nil =>
    rw [hp] at same
    cases same
  | cons o' rest =>
    rw [hp] at same cut flat
    have ho : ticks o' ≠ 0 := by
      refine ticks_ne_zero_of_mem cut List.mem_cons_self (List.mem_of_mem_head? ?_)
      rwa [← flat, List.flatten_cons, List.head?_append_of_ne_nil _ (cut.pieces o' List.mem_cons_self).1] at first
    rw [tickRuns_cons ho] at same
    obtain ⟨same_first, same⟩ := List.cons.inj same
    rcases List.eq_nil_or_concat' rest with rfl | ⟨inner', c', rfl⟩
    · exact absurd same (by simp [tickRuns])
    · have mem : c' ∈ o' :: (inner' ++ [c']) := List.mem_cons_of_mem _ (List.mem_append_right _ List.mem_cons_self)
      have hc : ticks c' ≠ 0 := by
        refine ticks_ne_zero_of_mem cut mem (List.mem_of_getLast? ?_)
        rwa [← flat, List.flatten_cons, List.flatten_append, List.flatten_singleton, ← List.append_assoc,
          List.getLast?_append_of_ne_nil _ (cut.pieces c' mem).1] at last
      rw [tickRuns_append, tickRuns_cons hc] at same
      obtain ⟨same_inner, same_last⟩ := List.append_inj' same rfl
      refine ⟨o', inner', c', rfl, ho, ?_, fun q hq e => ?_⟩
      · rw [same_first]
        exact (List.cons.inj same_last).1
      · have told : ticks q ∈ tickRuns inner' := mem_tickRuns_iff.mpr ⟨e ▸ ho, q, hq, rfl⟩
        rw [same_inner, e, same_first] at told
        obtain ⟨-, x, hx, e'⟩ := mem_tickRuns_iff.mp told
        exact h.between x hx e'

/-! ## Changing the text -/

/-- What masking leaves of a line that has a text changed for another one differs in the width of
that text only, which is blank in both. -/
def ChangesOnlyWidth (u t t' v : List Char) : Prop :=
  ∃ before after, (bytes before).length = (bytes u).length ∧
    maskCode (u ++ t ++ v) = before ++ (blankOut t ++ after) ∧
    maskCode (u ++ t' ++ v) = before ++ (blankOut t' ++ after)

/-- A text is cut apart from the texts around it where a run of backticks ends. -/
theorem codePieces_append_append (first : t.head? = some '\x60') (last : t.getLast? = some '\x60')
    (before : u.getLast? ≠ some '\x60') (after : v.head? ≠ some '\x60') :
    codePieces (u ++ t ++ v) = codePieces u ++ (codePieces t ++ codePieces v) := by
  have right : codePieces (t ++ v) = codePieces t ++ codePieces v := by
    refine List.splitBy_append fun x hx y hy => ?_
    obtain rfl : x = '\x60' := Option.some_inj.mp (hx.symm.trans last)
    have hy : y ≠ '\x60' := fun e => after (e ▸ hy)
    simp [hy]
  have left : codePieces (u ++ (t ++ v)) = codePieces u ++ codePieces (t ++ v) := by
    refine List.splitBy_append fun x hx y hy => ?_
    rw [List.head?_append_of_ne_nil _ (by rintro rfl; cases first)] at hy
    obtain rfl : y = '\x60' := Option.some_inj.mp (hy.symm.trans first)
    have hx : x ≠ '\x60' := fun e => before (e ▸ hx)
    simp [hx]
  rw [List.append_assoc, left, right]

theorem eq_tick_of_mem {x : Char} (h : tick ∈ String.utf8EncodeChar x) : x = '\x60' :=
  eq_of_mem_utf8EncodeChar (a := '\x60') (by decide) h

theorem getElem?_bytes_at_iff (u v : List Char) :
    (bytes (u ++ v))[(bytes u).length]? = some tick ↔ v.head? = some '\x60' := by
  rw [bytes_append, List.getElem?_append_right (Nat.le_refl _), Nat.sub_self]
  cases v with
  | nil => simp
  | cons x v =>
    have width : 0 < (String.utf8EncodeChar x).length := String.length_utf8EncodeChar x ▸ x.utf8Size_pos
    rw [bytes_cons, List.getElem?_append_left width, List.head?_cons, Option.some_inj]
    refine ⟨fun h => eq_tick_of_mem (List.mem_of_getElem? h), ?_⟩
    rintro rfl
    rfl

theorem getElem?_bytes_before_iff (u v : List Char) (hk : k + 1 = (bytes u).length) :
    (bytes (u ++ v))[k]? = some tick ↔ u.getLast? = some '\x60' := by
  rw [bytes_append, List.getElem?_append_left (by omega)]
  rcases List.eq_nil_or_concat' u with rfl | ⟨u, x, rfl⟩
  · cases hk
  · have width : 0 < (String.utf8EncodeChar x).length := String.length_utf8EncodeChar x ▸ x.utf8Size_pos
    have single : bytes [x] = String.utf8EncodeChar x := List.append_nil _
    rw [bytes_append, List.length_append, single] at hk
    rw [bytes_append, single, List.getElem?_append_right (by omega), List.getLast?_concat, Option.some_inj]
    refine ⟨fun h => eq_tick_of_mem (List.mem_of_getElem? h), ?_⟩
    rintro rfl
    obtain rfl : k = (bytes u).length := Nat.succ.inj hk
    rw [Nat.sub_self]
    rfl

theorem ends_of_span (span : ⟨(bytes u).length, (bytes (u ++ t)).length⟩ ∈ codeSpans (u ++ t ++ v)) :
    t.head? = some '\x60' ∧ t.getLast? = some '\x60' ∧ u.getLast? ≠ some '\x60' ∧ v.head? ≠ some '\x60' := by
  obtain ⟨r, c, hr, hc, start, stop, later⟩ := ticks_of_mem (areSpans_codeSpans _) span
  dsimp only at start stop
  have opens := hr.nonempty
  have closes := hc.nonempty
  have some_text : t ≠ [] := by
    rintro rfl
    rw [List.append_nil] at stop
    omega
  have first : t.head? = some '\x60' := by
    have here := hr.ticks ⟨Nat.le_refl _, opens⟩
    rwa [start, List.append_assoc, getElem?_bytes_at_iff, List.head?_append_of_ne_nil _ some_text] at here
  have last : t.getLast? = some '\x60' := by
    have here := hc.ticks (k := c.stop - 1) ⟨by omega, by omega⟩
    rwa [getElem?_bytes_before_iff (u ++ t) v (by omega), List.getLast?_append_of_ne_nil _ some_text] at here
  refine ⟨first, last, fun e => ?_, fun e => ?_⟩
  · have width : r.start - 1 + 1 = (bytes u).length := by
      obtain ⟨u, rfl⟩ := List.getLast?_eq_some_iff.mp e
      rw [start, bytes_append, List.length_append]
      exact Nat.sub_add_cancel (Nat.le_add_left ..)
    refine hr.before (width.trans start.symm) ?_
    rw [List.append_assoc]
    exact (getElem?_bytes_before_iff u (t ++ v) width).mpr e
  · exact hc.after (stop ▸ (getElem?_bytes_at_iff (u ++ t) v).mpr e)

theorem IsCut.right (cut : IsCut (ps ++ tail)) : IsCut tail :=
  ⟨fun p hp => cut.pieces p (List.mem_append_right _ hp), cut.apart.right_of_append⟩

theorem eq_of_append_eq (h : ps ++ tail = ps' ++ tail') (cut : IsCut (ps ++ tail))
    (width : (bytes ps.flatten).length = (bytes ps'.flatten).length) : ps = ps' := by
  have empty {more : List (List Char)} (all : ∀ p ∈ more, p ≠ []) (h : (bytes more.flatten).length = 0) :
      more = [] := by
    cases more with
    | nil => rfl
    | cons p more =>
      have := length_bytes_pos (all p List.mem_cons_self)
      rw [List.flatten_cons, bytes_append, List.length_append] at h
      omega
  rcases List.append_eq_append_iff.mp h with ⟨more, rfl, rfl⟩ | ⟨more, rfl, rfl⟩
  · rw [List.flatten_append, bytes_append, List.length_append] at width
    have none : more = [] := empty (fun p hp => (cut.pieces p (by simp [hp])).1) (by omega)
    rw [none, List.append_nil]
  · rw [List.flatten_append, bytes_append, List.length_append] at width
    have none : more = [] := empty (fun p hp => (cut.pieces p (by simp [hp])).1) (by omega)
    rw [none, List.append_nil]

theorem pieces_of_span (span : ⟨(bytes u).length, (bytes (u ++ t)).length⟩ ∈ codeSpans (u ++ t ++ v)) :
    ∃ o inner c, codePieces t = o :: (inner ++ [c]) ∧ IsSpanOf o inner c ∧
      insideAt 0 (codePieces t ++ codePieces v) (codePieces u) = 0 := by
  obtain ⟨first, last, before, after⟩ := ends_of_span span
  have cut := isCut_codePieces (u ++ t ++ v)
  have pass := pass_zero (u ++ t ++ v)
  rw [codeSpans] at span
  rw [codePieces_append_append first last before after] at cut pass span
  obtain ⟨limit, pass, spans⟩ := pass.append cut
  rw [Nat.zero_add, flatten_codePieces] at pass spans
  have here := (spans _ (Nat.le_refl _)).mp span
  have none := pass.eq_zero (inOrder_runsFrom cut.right _) here rfl
  obtain ⟨o, inner, c, rest, e, isSpan, width⟩ := exists_isSpanOf cut.right here rfl
  refine ⟨o, inner, c, ?_, isSpan, none⟩
  have same : codePieces t ++ codePieces v = o :: (inner ++ [c]) ++ rest := by
    rw [e]
    simp
  refine eq_of_append_eq same cut.right ?_
  rw [flatten_codePieces]
  rw [bytes_append, List.length_append] at width
  exact Nat.add_left_cancel width

/-- A span may change its text as long as the lengths of its runs of backticks stay the same. -/
theorem changesOnlyWidth_of_span (span : ⟨(bytes u).length, (bytes (u ++ t)).length⟩ ∈ codeSpans (u ++ t ++ v))
    (first' : t'.head? = some '\x60') (last' : t'.getLast? = some '\x60') (same : runLengths t' = runLengths t) :
    ChangesOnlyWidth u t t' v := by
  obtain ⟨first, last, before, after⟩ := ends_of_span span
  obtain ⟨o, inner, c, e, isSpan, none⟩ := pieces_of_span span
  obtain ⟨o', inner', c', e', isSpan'⟩ :=
    exists_isSpanOf_of_runLengths isSpan first' last' (by rw [same, runLengths, e])
  have alike : Alike (codePieces t ++ codePieces v) (codePieces t' ++ codePieces v) := alike_of_tickRuns same _
  have shown {t : List Char} {o c : List Char} {inner : List (List Char)} (e : codePieces t = o :: (inner ++ [c]))
      (isSpan : IsSpanOf o inner c) (first : t.head? = some '\x60') (last : t.getLast? = some '\x60')
      (none : insideAt 0 (codePieces t ++ codePieces v) (codePieces u) = 0) : maskCode (u ++ t ++ v) =
        shownPieces 0 (codePieces t ++ codePieces v) (codePieces u) ++ (blankOut t ++ maskCode v) := by
    have flat : t = (o :: (inner ++ [c])).flatten := by rw [← e, flatten_codePieces]
    rw [maskCode, codePieces_append_append first last before after, maskPieces_append, none]
    have masked : maskPieces 0 (codePieces t ++ codePieces v) = blankOut t ++ maskCode v := by
      rw [e, List.cons_append, List.append_assoc, List.singleton_append, isSpan.maskPieces_eq, ← flat, maskCode]
    rw [masked]
  refine ⟨_, _, ?_, shown e isSpan first last none, ?_⟩
  · rw [length_bytes_shownPieces, flatten_codePieces]
  · rw [shown e' isSpan' first' last' (alike.insideAt_eq 0 _ ▸ none), alike.shownPieces_eq]

/-- Masking turns the bytes of the spans of a line into blanks and keeps all others, and the ends of a
span are places where the line may be cut. So the runs that are left differ in length, masking again
changes nothing, and a span that changes its text but not its runs of backticks only changes its width. -/
theorem maskCode_blanks_spans (line : List Char) :
    (∀ spans, AreSpans (IsRun (bytes line)) spans ↔ ∀ s, s ∈ spans ↔ s ∈ codeSpans line) ∧
    (∀ s ∈ codeSpans line, String.Pos.Raw.IsValid (String.ofList line) ⟨s.start⟩ ∧
      String.Pos.Raw.IsValid (String.ofList line) ⟨s.stop⟩) ∧
    (bytes (maskCode line)).length = (bytes line).length ∧
    bytes (maskCode line) = blanked (codeSpans line) (bytes line) ∧
    (∀ r r', IsRun (bytes (maskCode line)) r → IsRun (bytes (maskCode line)) r' → r.length = r'.length → r = r') ∧
    maskCode (maskCode line) = maskCode line ∧
    ∀ u t v t', line = u ++ t ++ v → ⟨(bytes u).length, (bytes (u ++ t)).length⟩ ∈ codeSpans line →
      t'.head? = some '\x60' → t'.getLast? = some '\x60' → runLengths t' = runLengths t →
        ChangesOnlyWidth u t t' v := by
  have spansOf := areSpans_codeSpans line
  refine ⟨fun spans => ⟨fun h => h.mem_iff_mem spansOf, fun same => ?_⟩, fun s hs => ?_, ?_,
    bytes_maskCode line, ?_, maskCode_maskCode line, ?_⟩
  · intro s
    simp only [same]
    exact spansOf s
  · obtain ⟨r, c, hr, hc, start, stop, -⟩ := ticks_of_mem spansOf hs
    exact ⟨start ▸ (isValid_of_isRun hr).1, stop ▸ (isValid_of_isRun hc).2⟩
  · rw [bytes_maskCode, blanked, List.length_mapIdx]
  · intro r r' h h'
    rw [bytes_maskCode] at h h'
    exact eq_of_isRun_blanked spansOf h h'
  · rintro u t v t' rfl span first last same
    exact changesOnlyWidth_of_span span first last same

/-- A text between two runs that goes away joins them: the span is lost with it, though no backtick is. -/
theorem not_changesOnlyWidth_joined :
    let u := "See ".toList
    let run := "\x60\x60".toList
    let v := ".".toList
    let code := "[[A]]\x60b".toList
    let code' := "[[A]]\x60".toList
    ⟨4, 15⟩ ∈ codeSpans (u ++ (run ++ code ++ run) ++ v) ∧ (bytes u).length = 4 ∧
      (bytes (run ++ code ++ run)).length = 11 ∧ code'.count '\x60' = code.count '\x60' ∧
      ¬ ChangesOnlyWidth u (run ++ code ++ run) (run ++ code' ++ run) v := by
  intro u run v code code'
  refine ⟨by decide +kernel, by decide +kernel, by decide +kernel, by decide +kernel, ?_⟩
  rintro ⟨before, after, -, -, joined⟩
  -- Nothing of the changed line is masked, so it has the one blank that it is written with.
  have one : (maskCode (u ++ (run ++ code' ++ run) ++ v)).count ' ' = 1 := by decide +kernel
  have ten : (blankOut (run ++ code' ++ run)).count ' ' = 10 := by decide +kernel
  rw [joined, List.count_append, List.count_append, ten] at one
  omega

end Interlink.Glossary
