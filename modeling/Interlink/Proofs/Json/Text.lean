import Interlink.Proofs.Json.Scalar

/-!
# JSON and its text

A value that is written is read back as that value, whatever follows it in the text, as long as it has no part
for which the text has no words: floating point numbers, negative or too large ones, and what was broken or
unreadable from the start.
-/

namespace Interlink.Json

variable {fuel depth n : Nat} {s rest gap : List Char} {c : Char} {v : Value} {vs : List Value}
  {ms : List (String × Value)}

/-! ## Gaps -/

theorem isGap_newLine : ∀ c ∈ newLine depth, isGap c = true := by
  intro c hc
  rcases List.mem_cons.mp hc with rfl | hc
  · rfl
  · obtain rfl := List.eq_of_mem_replicate hc
    rfl

theorem dropWhile_gap (h : ∀ c ∈ gap, isGap c = true) : (gap ++ s).dropWhile isGap = s.dropWhile isGap :=
  List.dropWhile_append_of_pos h

theorem isGap_of_isDigit (h : c.isDigit = true) : isGap c = false := by
  refine Bool.eq_false_iff.mpr fun hg => ?_
  simp only [isGap, Bool.or_eq_true, decide_eq_true_eq] at hg
  rcases hg with ((rfl | rfl) | rfl) | rfl <;> cases h

theorem dropWhile_isGap_cons (h : isGap c = false) : (c :: s).dropWhile isGap = c :: s :=
  List.dropWhile_cons_of_neg (by simp [h])

theorem value_gap (h : ∀ c ∈ gap, isGap c = true) : value fuel (gap ++ s) = value fuel s := by
  cases fuel with
  | zero => rfl
  | succ fuel => rw [value, value, dropWhile_gap h]

theorem items_gap (h : ∀ c ∈ gap, isGap c = true) : items fuel (gap ++ s) = items fuel s := by
  cases fuel with
  | zero => rfl
  | succ fuel => rw [items, items, value_gap h]

theorem members_gap (h : ∀ c ∈ gap, isGap c = true) : members fuel (gap ++ s) = members fuel s := by
  cases fuel with
  | zero => rfl
  | succ fuel => rw [members, members, dropWhile_gap h]

/-! ## Values -/

inductive Plain : Value → Prop where
  | null : Plain .null
  | bool (b : Bool) : Plain (.bool b)
  | nat (n : Nat) (h : n < wordLimit) : Plain (.int n)
  | str (t : String) : Plain (.str t)
  | arr (vs : List Value) (h : ∀ v ∈ vs, Plain v) : Plain (.arr vs true)
  | obj (ms : List (String × Value)) (h : ∀ m ∈ ms, Plain m.2) : Plain (.obj ms true)

/-- With more fuel than its text is long the value is read from its text, and what follows is left over. -/
def ReadsBack (v : Value) : Prop := ∀ depth fuel rest, (render depth v).length < fuel → NumberEnds rest →
  value fuel (render depth v ++ rest) = (v, some rest)

theorem Plain.begins (h : Plain v) (depth : Nat) :
    ∃ c s, render depth v = c :: s ∧ isGap c = false ∧ c ≠ ']' := by
  cases h with
  | null => exact ⟨'n', _, rfl, by decide⟩
  | bool b =>
    cases b with
    | true => exact ⟨'t', _, rfl, by decide⟩
    | false => exact ⟨'f', _, rfl, by decide⟩
  | nat n h =>
    obtain ⟨c, ds, hds, digit⟩ := exists_digit_toDigits n
    refine ⟨c, ds, hds, isGap_of_isDigit digit, ?_⟩
    rintro rfl
    cases digit
  | str t => exact ⟨'\x22', _, rfl, by decide⟩
  | arr vs h =>
    cases vs with
    | nil => exact ⟨'[', _, by rw [render], by decide⟩
    | cons v vs => exact ⟨'[', _, by rw [render]; rfl, by decide⟩
  | obj ms h =>
    cases ms with
    | nil => exact ⟨'\x7b', _, by rw [render], by decide⟩
    | cons m ms => exact ⟨'\x7b', _, by rw [render]; rfl, by decide⟩

theorem words_of_isDigit (digit : c.isDigit = true) :
    words.findSome? (fun (w, v) => (after? w (c :: s)).map (v, ·)) = none := by
  have otherWord (w : String) (x : Char) (xs : List Char) (hw : w.toList = x :: xs) (hx : x.isDigit = false) :
      after? w (c :: s) = none := by
    have hne : (x == c) = false := by
      refine beq_eq_false_iff_ne.mpr ?_
      rintro rfl
      rw [digit] at hx
      cases hx
    rw [after?, hw, List.isPrefixOf, hne, Bool.false_and]
    rfl
  simp only [words, List.findSome?, otherWord "null" 'n' _ rfl rfl, otherWord "true" 't' _ rfl rfl,
    otherWord "false" 'f' _ rfl rfl, Option.map_none]

theorem scalar_toDigits (h : n < wordLimit) (ends : NumberEnds rest) :
    scalar (Nat.toDigits 10 n ++ rest) = (.int n, some rest) := by
  have number := number?_toDigits h ends
  obtain ⟨c, ds, hds, digit⟩ := exists_digit_toDigits n
  rw [hds, List.cons_append] at number ⊢
  unfold scalar
  split
  · rename_i e
    rw [(List.cons.inj e).1] at digit
    cases digit
  · rw [words_of_isDigit digit, number]

theorem value_scalar (hg : isGap c = false) (hl : c ≠ '[') (hm : c ≠ '\x7b') :
    value (fuel + 1) (c :: s) = scalar (c :: s) := by
  rw [value, dropWhile_isGap_cons hg]
  split
  · rename_i e
    exact absurd (List.cons.inj e).1 hl
  · rename_i e
    exact absurd (List.cons.inj e).1 hm
  · rfl

theorem value_openList (s : List Char) : value (fuel + 1) ('[' :: s) =
    match s.dropWhile isGap with
    | ']' :: rest => (.arr [] true, some rest)
    | rest => (.arr (items fuel rest).1 (items fuel rest).2.isSome, (items fuel rest).2) := by
  rw [value]
  rfl

theorem value_list (hgap : ∀ c ∈ gap, isGap c = true) (hg : isGap c = false) (hc : c ≠ ']')
    (h : items fuel (c :: s) = (vs, some rest)) :
    value (fuel + 1) ('[' :: (gap ++ c :: s)) = (.arr vs true, some rest) := by
  rw [value_openList, dropWhile_gap hgap, dropWhile_isGap_cons hg]
  split
  · rename_i e
    exact absurd (List.cons.inj e).1 hc
  · rw [h]
    rfl

theorem value_openMap (s : List Char) : value (fuel + 1) ('\x7b' :: s) =
    match s.dropWhile isGap with
    | '\x7d' :: rest => (.obj [] true, some rest)
    | rest => (.obj (members fuel rest).1 (members fuel rest).2.isSome, (members fuel rest).2) := by
  rw [value]
  rfl

theorem value_map (hgap : ∀ c ∈ gap, isGap c = true) (h : members fuel ('\x22' :: s) = (ms, some rest)) :
    value (fuel + 1) ('\x7b' :: (gap ++ '\x22' :: s)) = (.obj ms true, some rest) := by
  rw [value_openMap, dropWhile_gap hgap, dropWhile_isGap_cons rfl]
  split
  · rename_i e
    exact absurd (List.cons.inj e).1 (by decide)
  · rw [h]
    rfl

theorem items_next (hv : value fuel s = (v, some (',' :: rest))) :
    items (fuel + 1) s = (v :: (items fuel rest).1, (items fuel rest).2) := by
  rw [items, hv]
  rfl

theorem items_last (hgap : ∀ c ∈ gap, isGap c = true) (hv : value fuel s = (v, some (gap ++ ']' :: rest))) :
    items (fuel + 1) s = ([v], some rest) := by
  rw [items, hv]
  dsimp only
  rw [Option.map_some, dropWhile_gap hgap]
  rfl

theorem numberEnds_cons (h : c.isDigit = false ∧ c ≠ '.' ∧ c ≠ 'e' ∧ c ≠ 'E') : NumberEnds (c :: s) := by
  intro x hx
  obtain rfl := Option.some.inj hx
  exact h

theorem numberEnds_comma : NumberEnds (',' :: s) := numberEnds_cons (by decide)

theorem numberEnds_newLine : NumberEnds (newLine depth ++ s) := numberEnds_cons (by decide)

theorem items_render (depth outer : Nat) (rest : List Char) (readsBack : ∀ w ∈ v :: vs, ReadsBack w)
    (h : (render depth v).length + (renderItems depth vs).length < fuel) :
    items (fuel + 1) (render depth v ++ (renderItems depth vs ++ (newLine outer ++ ']' :: rest))) =
      (v :: vs, some rest) := by
  induction vs generalizing v fuel with
  | nil =>
    rw [renderItems, List.nil_append]
    exact items_last isGap_newLine (readsBack v List.mem_cons_self depth fuel _ (by omega) numberEnds_newLine)
  | cons v' vs ih =>
    rw [renderItems] at h ⊢
    simp only [List.length_append, List.length_cons] at h
    simp only [List.cons_append, List.append_assoc]
    obtain ⟨f, rfl⟩ : ∃ f, fuel = f + 1 := ⟨fuel - 1, by omega⟩
    rw [items_next (readsBack v List.mem_cons_self depth _ _ (by omega) numberEnds_comma), items_gap isGap_newLine,
      ih (fun w hw => readsBack w (List.mem_cons_of_mem v hw)) (by omega)]

theorem string?_renderText (k : String) (s : List Char) :
    ∃ t, renderText k ++ s = '\x22' :: t ∧ string? t = some (some k, s) := by
  refine ⟨k.toList.flatMap escape ++ '\x22' :: s, ?_, string?_text k⟩
  simp [renderText]

theorem members_open (s : List Char) : members (fuel + 1) ('\x22' :: s) =
    match string? s with
    | some (some name, rest) =>
      match rest.dropWhile isGap with
      | ':' :: rest =>
        match (value fuel rest).2.map (·.dropWhile isGap) with
        | some (',' :: more) => ((name, (value fuel rest).1) :: (members fuel more).1, (members fuel more).2)
        | some ('\x7d' :: more) => ([(name, (value fuel rest).1)], some more)
        | _ => ([(name, (value fuel rest).1)], none)
      | _ => ([(name, .broken)], none)
    | _ => ([], none) := by
  rw [members]
  rfl

theorem members_value (k : String) (t : List Char) :
    members (fuel + 1) (renderText k ++ ':' :: t) =
      match (value fuel t).2.map (·.dropWhile isGap) with
      | some (',' :: rest) => ((k, (value fuel t).1) :: (members fuel rest).1, (members fuel rest).2)
      | some ('\x7d' :: rest) => ([(k, (value fuel t).1)], some rest)
      | _ => ([(k, (value fuel t).1)], none) := by
  obtain ⟨s, hs, hk⟩ := string?_renderText k (':' :: t)
  rw [hs, members_open, hk]
  rfl

theorem members_next {t : List Char} {k : String} (hv : value fuel t = (v, some (',' :: rest))) :
    members (fuel + 1) (renderText k ++ ':' :: t) = ((k, v) :: (members fuel rest).1, (members fuel rest).2) := by
  rw [members_value, hv]
  rfl

theorem members_last {t : List Char} {k : String} (hgap : ∀ c ∈ gap, isGap c = true)
    (hv : value fuel t = (v, some (gap ++ '\x7d' :: rest))) :
    members (fuel + 1) (renderText k ++ ':' :: t) = ([(k, v)], some rest) := by
  rw [members_value, hv]
  dsimp only
  rw [Option.map_some, dropWhile_gap hgap]
  rfl

theorem value_space : value fuel (' ' :: s) = value fuel s := by
  have gap : ∀ c ∈ [' '], isGap c = true := by
    intro c hc
    obtain rfl := List.mem_singleton.mp hc
    rfl
  exact value_gap gap

theorem members_render (depth outer : Nat) (rest : List Char) (k : String)
    (readsBack : ∀ m ∈ (k, v) :: ms, ReadsBack m.2)
    (h : (render depth v).length + (renderMembers depth ms).length < fuel) :
    members (fuel + 1) (renderText k ++ ':' :: ' ' :: (render depth v ++
      (renderMembers depth ms ++ (newLine outer ++ '\x7d' :: rest)))) = ((k, v) :: ms, some rest) := by
  have fits : (render depth v).length < fuel := Nat.lt_of_le_of_lt (Nat.le_add_right _ _) h
  induction ms generalizing k v fuel with
  | nil =>
    rw [renderMembers, List.nil_append]
    have last : value fuel (' ' :: (render depth v ++ (newLine outer ++ '\x7d' :: rest))) =
        (v, some (newLine outer ++ '\x7d' :: rest)) := by
      rw [value_space]
      exact readsBack (k, v) List.mem_cons_self depth _ _ fits numberEnds_newLine
    exact members_last isGap_newLine last
  | cons m ms ih =>
    obtain ⟨k', v'⟩ := m
    rw [renderMembers] at h ⊢
    simp only [List.length_append, List.length_cons] at h
    simp only [List.cons_append, List.append_assoc, List.nil_append]
    obtain ⟨f, rfl⟩ : ∃ f, fuel = f + 1 := ⟨fuel - 1, by omega⟩
    have next (rest : List Char) :
        value (f + 1) (' ' :: (render depth v ++ ',' :: rest)) = (v, some (',' :: rest)) := by
      rw [value_space]
      exact readsBack (k, v) List.mem_cons_self depth _ _ fits numberEnds_comma
    rw [members_next (next _), members_gap isGap_newLine,
      ih k' (fun m hm => readsBack m (List.mem_cons_of_mem _ hm)) (by omega) (by omega)]

theorem ReadsBack.of_succ (h : ∀ depth f rest, (render depth v).length < f + 1 → NumberEnds rest →
    value (f + 1) (render depth v ++ rest) = (v, some rest)) : ReadsBack v := by
  intro depth fuel rest hl ends
  obtain ⟨f, rfl⟩ : ∃ f, fuel = f + 1 := ⟨fuel - 1, by omega⟩
  exact h depth f rest hl ends

theorem ReadsBack.nat (h : n < wordLimit) : ReadsBack (.int n) := by
  refine .of_succ fun depth f rest _ ends => ?_
  have text : render depth (.int n) = Nat.toDigits 10 n := by
    rw [render]
    rfl
  obtain ⟨c, ds, hds, digit⟩ := exists_digit_toDigits n
  rw [text, ← scalar_toDigits h ends, hds, List.cons_append]
  refine value_scalar (isGap_of_isDigit digit) ?_ ?_
  · rintro rfl
    cases digit
  · rintro rfl
    cases digit

theorem ReadsBack.str (t : String) : ReadsBack (.str t) := by
  refine .of_succ fun depth f rest _ _ => ?_
  obtain ⟨s, hs, ht⟩ := string?_renderText t rest
  rw [render, hs, value_scalar rfl (by decide) (by decide), scalar, ht]

theorem ReadsBack.arr (plain : ∀ v ∈ vs, Plain v) (readsBack : ∀ v ∈ vs, ReadsBack v) :
    ReadsBack (.arr vs true) := by
  refine .of_succ fun depth f rest hl _ => ?_
  cases vs with
  | nil =>
    rw [render]
    rfl
  | cons v vs =>
    obtain ⟨c, s, hs, hg, hc⟩ := (plain v List.mem_cons_self).begins (depth + 1)
    rw [render] at hl ⊢
    simp only [List.cons_append, List.append_assoc, List.length_append, List.length_cons, List.nil_append] at hl ⊢
    -- Besides its items a list takes two steps of the fuel, and its text has two brackets.
    obtain ⟨g, rfl⟩ : ∃ g, f = g + 1 := ⟨f - 1, by omega⟩
    have fits : (render (depth + 1) v).length + (renderItems (depth + 1) vs).length < g := by omega
    have inside := items_render (depth + 1) depth rest readsBack fits
    rw [hs, List.cons_append] at inside ⊢
    exact value_list isGap_newLine hg hc inside

theorem ReadsBack.obj (readsBack : ∀ m ∈ ms, ReadsBack m.2) : ReadsBack (.obj ms true) := by
  refine .of_succ fun depth f rest hl _ => ?_
  cases ms with
  | nil =>
    rw [render]
    rfl
  | cons m ms =>
    obtain ⟨k, v⟩ := m
    rw [render] at hl ⊢
    simp only [List.cons_append, List.append_assoc, List.length_append, List.length_cons, List.nil_append] at hl ⊢
    obtain ⟨g, rfl⟩ : ∃ g, f = g + 1 := ⟨f - 1, by omega⟩
    have fits : (render (depth + 1) v).length + (renderMembers (depth + 1) ms).length < g := by omega
    have inside := members_render (depth + 1) depth rest k readsBack fits
    rw [renderText, List.cons_append, List.cons_append] at inside ⊢
    exact value_map isGap_newLine inside

theorem Plain.readsBack (h : Plain v) : ReadsBack v := by
  induction h with
  | null => exact .of_succ fun _ _ _ _ _ => rfl
  | bool b => exact .of_succ fun _ _ _ _ _ => by cases b <;> rfl
  | nat n h => exact .nat h
  | str t => exact .str t
  | arr vs plain readsBack => exact .arr plain readsBack
  | obj ms plain readsBack => exact .obj readsBack

theorem decode_pretty {α : Type} (read : Value → Except Fault α) (h : Plain v) :
    decode read (v.pretty ++ "\n") = read v := by
  have text : (v.pretty ++ "\n").toList = render 0 v ++ ['\n'] := by
    rw [Value.pretty, String.toList_append, String.toList_ofList]
    rfl
  have length : (v.pretty ++ "\n").length = (render 0 v).length + 1 := by
    rw [← String.length_toList, text, List.length_append]
    rfl
  unfold decode
  rw [text, length, h.readsBack 0 _ ['\n'] (by omega) (numberEnds_cons (by decide))]
  dsimp only
  cases read v <;> rfl

end Interlink.Json
