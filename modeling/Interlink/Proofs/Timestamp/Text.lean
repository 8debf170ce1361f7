import Interlink.Proofs.Number.Decimal
import Interlink.Proofs.Text.Spelling
import Interlink.Proofs.Timestamp.Calendar

/-!
# Timestamps and their texts

The text of a timestamp is read back as that timestamp. This covers all timestamps that are ever
read, so that one is the same after any number of writings and readings.
-/

namespace Interlink.Timestamp

open Text

variable {n width most : Nat} {ds s rest : List Char} {c : Char} {t : Timestamp}

/-- What timestamps that are read look like: only the last second of a minute may be a leap second. -/
structure Valid (t : Timestamp) : Prop where
  second : t.second < daySeconds
  nano : t.nano < 2 * nanosPerSecond
  leap : nanosPerSecond ≤ t.nano → t.second % 60 = 59
  year : leastYear ≤ (dateOf t.day).1 ∧ (dateOf t.day).1 ≤ greatestYear

/-- A moment in a year of four digits that is in no leap second. -/
structure Ordinary (t : Timestamp) : Prop where
  second : t.second < daySeconds
  nano : t.nano < nanosPerSecond
  year : 0 ≤ (dateOf t.day).1 ∧ (dateOf t.day).1 ≤ 9999

theorem Ordinary.valid (h : t.Ordinary) : t.Valid where
  second := h.second
  nano := Nat.lt_of_lt_of_le h.nano (by decide)
  leap leap := absurd h.nano (Nat.not_lt.mpr leap)
  year := ⟨Int.le_trans (by decide) h.year.1, Int.le_trans h.year.2 (by decide)⟩

/-! ## Digits -/

theorem isBlank_of_isDigit (h : c.isDigit = true) : isBlank c = false := by
  obtain ⟨least, most⟩ := toNat_of_isDigit h
  rw [← Char.ofNat_toNat c]
  generalize c.toNat = n at least most
  change 48 ≤ n at least
  change n ≤ 57 at most
  interval_cases n <;> decide

theorem trimStart_digits (hd : ∀ c ∈ ds, c.isDigit = true) (hne : ds ≠ []) :
    trimStart (ds ++ rest) = ds ++ rest := by
  obtain ⟨c, ds, rfl⟩ := List.exists_cons_of_ne_nil hne
  exact trimStart_cons_eq (isBlank_of_isDigit (hd c List.mem_cons_self)) (ds ++ rest)

theorem sum_digits (ds : List Char) :
    ds.foldl (fun n c => n * 10 + (c.toNat - '0'.toNat)) 0 = Nat.ofDigitChars 10 ds 0 := by
  simp only [Nat.ofDigitChars_eq_foldl, Nat.mul_comm]

theorem number?_append (hd : ∀ c ∈ ds, c.isDigit = true) (hne : ds ≠ []) (hl : ds.length ≤ most)
    (h : NoDigitNext (rest.take (most - ds.length))) :
    number? most (ds ++ rest) = some (Nat.ofDigitChars 10 ds 0, rest) := by
  have hs : ((ds ++ rest).take most).takeWhile Char.isDigit = ds := by
    rw [List.take_append, List.take_of_length_le hl, takeWhile_isDigit_append hd h]
  unfold number?
  dsimp only
  rw [hs, if_neg (by simpa using hne), sum_digits, List.drop_left]

theorem toList_padded (width n : Nat) : (padded width n).toList =
    List.replicate (width - (Nat.toDigits 10 n).length) '0' ++ Nat.toDigits 10 n := by
  rw [padded, String.toList_ofList]

theorem isDigit_of_mem_padded (h : c ∈ (padded width n).toList) : c.isDigit = true := by
  rw [toList_padded] at h
  rcases List.mem_append.mp h with h | h
  · obtain rfl := List.eq_of_mem_replicate h
    rfl
  · exact isDigit_of_mem_toDigits h

theorem padded_ne_nil : (padded width n).toList ≠ [] := by
  rw [toList_padded]
  exact List.append_ne_nil_of_right_ne_nil _ Nat.toDigits_ne_nil

theorem length_padded (hw : 0 < width) (h : n < 10 ^ width) : (padded width n).toList.length = width := by
  have hl := (Nat.length_toDigits_le_iff (by decide) hw).mpr h
  rw [toList_padded, List.length_append, List.length_replicate, Nat.sub_add_cancel hl]

theorem ofDigitChars_padded : Nat.ofDigitChars 10 (padded width n).toList 0 = n := by
  rw [toList_padded, Nat.ofDigitChars_append, Nat.ofDigitChars_replicate_zero, Nat.mul_zero,
    Nat.ofDigitChars_ten_toDigits]

theorem number?_padded (hw : 0 < width) (h : n < 10 ^ width) (hm : width ≤ most)
    (hr : NoDigitNext (rest.take (most - width))) :
    number? most ((padded width n).toList ++ rest) = some (n, rest) := by
  have hl := length_padded hw h
  rw [number?_append (fun _ => isDigit_of_mem_padded) padded_ne_nil (hl.trans_le hm) (hl.symm ▸ hr),
    ofDigitChars_padded]

/-! ## Parts of the text -/

theorem twoDigits?_padded (h : n < 100) : twoDigits? ((padded 2 n).toList ++ rest) = some (n, rest) := by
  rw [twoDigits?, trimStart_digits (fun _ => isDigit_of_mem_padded) padded_ne_nil]
  exact number?_padded (by decide) h (Nat.le_refl 2) noDigitNext_nil

theorem mark?_self (h : isBlank c = false) : mark? c (c :: rest) = some rest := by
  rw [mark?, trimStart_cons_eq h]
  exact if_pos rfl

theorem number?_year (n : Nat) :
    number? ((padded 4 n).toList ++ '-' :: rest).length ((padded 4 n).toList ++ '-' :: rest) =
      some (n, '-' :: rest) := by
  rw [number?_append (fun _ => isDigit_of_mem_padded) padded_ne_nil (by simp) (noDigitNext_cons rfl),
    ofDigitChars_padded]

theorem yearText_cases (y : Int) : ∃ n : Nat,
    (y = n ∧ n ≤ 9999 ∧ (yearText y).toList = (padded 4 n).toList) ∨
      (y = n ∧ (yearText y).toList = '+' :: (padded 4 n).toList) ∨
      (y = -n ∧ (yearText y).toList = '-' :: (padded 4 n).toList) := by
  unfold yearText
  by_cases hy : 0 ≤ y
  · refine ⟨y.toNat, ?_⟩
    have e : y = y.toNat := (Int.toNat_of_nonneg hy).symm
    by_cases hle : y ≤ 9999
    · exact .inl ⟨e, by omega, by rw [if_pos ⟨hy, hle⟩]⟩
    · refine .inr (.inl ⟨e, ?_⟩)
      have abs : y.natAbs = y.toNat := by omega
      rw [if_neg (fun h => hle h.2), if_pos hy, String.toList_append, abs]
      rfl
  · refine ⟨y.natAbs, .inr (.inr ⟨by omega, ?_⟩)⟩
    rw [if_neg (fun h => hy h.1), if_neg hy, String.toList_append]
    rfl

theorem trimStart_yearText (y : Int) : trimStart ((yearText y).toList ++ rest) = (yearText y).toList ++ rest := by
  obtain ⟨n, ⟨_, _, e⟩ | ⟨_, e⟩ | ⟨_, e⟩⟩ := yearText_cases y
  · rw [e]
    exact trimStart_digits (fun _ => isDigit_of_mem_padded) padded_ne_nil
  · rw [e]
    exact trimStart_cons_eq (by decide) _
  · rw [e]
    exact trimStart_cons_eq (by decide) _

theorem year?_digits (hd : ∀ c ∈ ds, c.isDigit = true) (hne : ds ≠ []) :
    year? (ds ++ rest) = (number? 4 (ds ++ rest)).map fun (n, rest) => ((n : Int), rest) := by
  obtain ⟨c, ds, rfl⟩ := List.exists_cons_of_ne_nil hne
  have hc := hd c List.mem_cons_self
  unfold year?
  split
  · rename_i e
    rw [(List.cons.inj e).1] at hc
    cases hc
  · rename_i e
    rw [(List.cons.inj e).1] at hc
    cases hc
  · rfl

theorem year?_yearText (y : Int) : year? ((yearText y).toList ++ '-' :: rest) = some (y, '-' :: rest) := by
  obtain ⟨n, ⟨rfl, hn, e⟩ | ⟨rfl, e⟩ | ⟨rfl, e⟩⟩ := yearText_cases y
  · have digits : number? 4 ((padded 4 n).toList ++ '-' :: rest) = some (n, '-' :: rest) :=
      number?_padded (by decide) (by omega) (Nat.le_refl 4) noDigitNext_nil
    rw [e, year?_digits (fun _ => isDigit_of_mem_padded) padded_ne_nil, digits]
    rfl
  · rw [e, List.cons_append, year?, number?_year]
    rfl
  · rw [e, List.cons_append, year?, number?_year]
    rfl

/-- A number of nanoseconds is written with three, six or nine digits. -/
theorem fraction?_fractionText (h : n < nanosPerSecond) :
    fraction? ((fractionText n).toList ++ ['Z']) = some (n, ['Z']) := by
  have places (k d : Nat) (hk : 0 < k ∧ k ≤ 9) (hd : d < 10 ^ k) (hn : d * 10 ^ (9 - k) = n) :
      fraction? ('.' :: ((padded k d).toList ++ ['Z'])) = some (n, ['Z']) := by
    have hl : ((padded k d).toList ++ ['Z']).length - ['Z'].length = k := by
      rw [List.length_append, length_padded hk.1 hd, Nat.add_sub_cancel]
    rw [fraction?, number?_padded hk.1 hd hk.2 (noDigitNext_cons rfl), Option.map_some]
    dsimp only
    rw [hl, Nat.pow_eq, hn]
    rfl
  have hn : n < 1000000000 := h
  unfold fractionText
  by_cases h0 : n = 0
  · subst h0
    rfl
  · rw [if_neg h0]
    by_cases h6 : n % 1000000 = 0
    · rw [if_pos h6, String.toList_append]
      exact places 3 (n / 1000000) (by decide) (by omega) (Nat.div_mul_cancel (Nat.dvd_of_mod_eq_zero h6))
    · rw [if_neg h6]
      by_cases h3 : n % 1000 = 0
      · rw [if_pos h3, String.toList_append]
        exact places 6 (n / 1000) (by decide) (by omega) (Nat.div_mul_cancel (Nat.dvd_of_mod_eq_zero h3))
      · rw [if_neg h3, String.toList_append]
        exact places 9 n (by decide) hn (Nat.mul_one n)

/-! ## Reading what is written -/

theorem ofLocal?_eq_some_iff {year offset : Int} {month day hour minute second nano : Nat} :
    ofLocal? year month day hour minute second nano offset = some t ↔
      let seconds : Int := hour * 3600 + minute * 60 + min second 59 - offset
      let moved := dayOf year month day + seconds / daySeconds
      (leastYear ≤ year ∧ year ≤ greatestYear ∧ 1 ≤ month ∧ month ≤ 12 ∧ 1 ≤ day ∧
        day ≤ daysInMonth year month ∧ hour ≤ 23 ∧ minute ≤ 59 ∧ second ≤ 60) ∧
      (leastYear ≤ (dateOf moved).1 ∧ (dateOf moved).1 ≤ greatestYear) ∧
      t = ⟨moved, (seconds % daySeconds).toNat, if second = 60 then nano + nanosPerSecond else nano⟩ := by
  unfold ofLocal?
  dsimp only
  split
  · rename_i date
    split
    · rename_i shown
      simp only [date, shown, and_self, true_and, Option.some.injEq]
      exact eq_comm
    · rename_i shown
      simp only [shown, false_and, and_false, reduceCtorEq]
  · rename_i date
    simp only [date, false_and, reduceCtorEq]

theorem ofLocal?_dateOf (h : t.Valid) :
    ofLocal? (dateOf t.day).1 (dateOf t.day).2.1 (dateOf t.day).2.2 (t.second / 3600) (t.second / 60 % 60)
      (t.second % 60 + t.nano / nanosPerSecond) (t.nano % nanosPerSecond) 0 = some t := by
  obtain ⟨day, second, nano⟩ := t
  obtain ⟨hs, hn, leap, year⟩ := h
  obtain ⟨m1, m12, d1, dm⟩ := dateOf_valid day
  simp only [daySeconds, nanosPerSecond] at *
  have hl : nano / 1000000000 = 0 ∨ nano / 1000000000 = 1 ∧ second % 60 = 59 := by
    by_cases h : 1000000000 ≤ nano
    · exact .inr ⟨by omega, leap h⟩
    · exact .inl (by omega)
  have seconds : ((second / 3600 : Nat) : Int) * 3600 + ((second / 60 % 60 : Nat) : Int) * 60 +
      ((min (second % 60 + nano / 1000000000) 59 : Nat) : Int) - 0 = second := by
    omega
  have quotient : (second : Int) / (86400 : Nat) = 0 := by omega
  have remainder : ((second : Int) % (86400 : Nat)).toNat = second := by omega
  refine ofLocal?_eq_some_iff.mpr ?_
  dsimp only [daySeconds, nanosPerSecond]
  rw [seconds, dayOf_dateOf, quotient, remainder, Int.add_zero]
  refine ⟨⟨year.1, year.2, m1, m12, d1, dm, by omega, by omega, by omega⟩, year, ?_⟩
  congr 1
  split <;> omega

theorem ofText?_text (h : t.Valid) : ofText? t.text = some t := by
  obtain ⟨_, m12, _, dm⟩ := dateOf_valid t.day
  have hm : (dateOf t.day).2.1 < 100 := Nat.lt_of_le_of_lt m12 (by decide)
  have hd : (dateOf t.day).2.2 < 100 := by
    refine Nat.lt_of_le_of_lt dm ?_
    unfold daysInMonth
    split
    · split <;> decide
    · split <;> decide
  have hs : t.second < 86400 := h.second
  have hn : t.nano < 2 * 1000000000 := h.nano
  have hour : t.second / 3600 < 100 := by omega
  have minute : t.second / 60 % 60 < 100 := by omega
  have second : t.second % 60 + t.nano / nanosPerSecond < 100 := by
    unfold nanosPerSecond
    omega
  have nano : t.nano % nanosPerSecond < nanosPerSecond := Nat.mod_lt _ (by decide)
  have dash : isBlank '-' = false := by decide
  have colon : isBlank ':' = false := by decide
  have zone : offset? (trimStart ['Z']) = some (0, []) := by decide
  have text : t.text.toList =
      (yearText (dateOf t.day).1).toList ++ '-' :: ((padded 2 (dateOf t.day).2.1).toList ++
      '-' :: ((padded 2 (dateOf t.day).2.2).toList ++ 'T' :: ((padded 2 (t.second / 3600)).toList ++
      ':' :: ((padded 2 (t.second / 60 % 60)).toList ++
      ':' :: ((padded 2 (t.second % 60 + t.nano / nanosPerSecond)).toList ++
      ((fractionText (t.nano % nanosPerSecond)).toList ++ ['Z'])))))) := by
    simp [Timestamp.text, clockText, String.toList_append]
  unfold ofText?
  rw [text, trimStart_yearText]
  refine Option.bind_eq_some_iff.mpr ⟨_, year?_yearText _, ?_⟩
  refine Option.bind_eq_some_iff.mpr ⟨_, mark?_self dash, ?_⟩
  refine Option.bind_eq_some_iff.mpr ⟨_, twoDigits?_padded hm, ?_⟩
  refine Option.bind_eq_some_iff.mpr ⟨_, mark?_self dash, ?_⟩
  refine Option.bind_eq_some_iff.mpr ⟨_, twoDigits?_padded hd, ?_⟩
  refine (if_neg (by decide)).trans ?_
  refine Option.bind_eq_some_iff.mpr ⟨_, twoDigits?_padded hour, ?_⟩
  refine Option.bind_eq_some_iff.mpr ⟨_, mark?_self colon, ?_⟩
  refine Option.bind_eq_some_iff.mpr ⟨_, twoDigits?_padded minute, ?_⟩
  refine Option.bind_eq_some_iff.mpr ⟨_, mark?_self colon, ?_⟩
  refine Option.bind_eq_some_iff.mpr ⟨_, twoDigits?_padded second, ?_⟩
  refine Option.bind_eq_some_iff.mpr ⟨_, fraction?_fractionText nano, ?_⟩
  refine Option.bind_eq_some_iff.mpr ⟨_, zone, ?_⟩
  exact ofLocal?_dateOf h

/-! ## What is read -/

theorem offset?_minutes {o : Int} (h : offset? s = some (o, rest)) : o % 60 = 0 := by
  unfold offset? at h
  split at h
  · cases h
  · split at h
    · cases h
      rfl
    · split at h
      · cases h
        rfl
      · split at h
        · split at h
          · split at h
            · split at h
              · simp only [Option.bind_eq_bind, Option.bind_eq_some_iff] at h
                obtain ⟨⟨hours, _⟩, _, ⟨minutes, _⟩, _, h⟩ := h
                dsimp only at h
                split at h
                · cases h
                · cases h
                  split <;> omega
              · cases h
            · cases h
          · cases h
        · cases h

theorem number?_lt (h : number? most s = some (n, rest)) :
    n < 10 ^ (s.length - rest.length) ∧ s.length - rest.length ≤ most := by
  unfold number? at h
  dsimp only at h
  generalize hds : (s.take most).takeWhile Char.isDigit = ds at h
  have digits : ∀ c ∈ ds, c.isDigit = true := fun c hc => List.mem_takeWhile_imp (hds.symm ▸ hc)
  have sub : ds.length ≤ (s.take most).length := by
    rw [← hds]
    exact (List.takeWhile_sublist _).length_le
  rw [List.length_take] at sub
  split at h
  · cases h
  · cases h
    have hl : s.length - (s.drop ds.length).length = ds.length := by
      rw [List.length_drop]
      omega
    rw [hl, sum_digits]
    exact ⟨ofDigitChars_lt digits, by omega⟩

theorem fraction?_lt (h : fraction? s = some (n, rest)) : n < nanosPerSecond := by
  unfold fraction? at h
  split at h
  · rename_i places
    obtain ⟨⟨m, more⟩, hm, e⟩ := Option.map_eq_some_iff.mp h
    obtain ⟨hlt, hle⟩ := number?_lt hm
    obtain ⟨rfl, -⟩ := Prod.mk.inj e
    calc
      m * 10 ^ (9 - (places.length - more.length))
          < 10 ^ (places.length - more.length) * 10 ^ (9 - (places.length - more.length)) :=
        Nat.mul_lt_mul_of_pos_right hlt (Nat.pow_pos (by decide))
      _ = nanosPerSecond := by
        rw [← Nat.pow_add, Nat.add_sub_cancel' hle]
        rfl
  · cases h
    decide

theorem valid_of_ofLocal? {year offset : Int} {month day hour minute second nano : Nat} (ho : offset % 60 = 0)
    (hn : nano < nanosPerSecond) (h : ofLocal? year month day hour minute second nano offset = some t) :
    t.Valid := by
  obtain ⟨⟨_, _, _, _, _, _, _, _, _⟩, shown, rfl⟩ := ofLocal?_eq_some_iff.mp h
  refine ⟨?_, ?_, fun leap => ?_, shown⟩
  · dsimp only [daySeconds]
    omega
  · dsimp only
    split <;> omega
  · dsimp only [daySeconds] at leap ⊢
    split at leap
    · omega
    · exact absurd leap (Nat.not_le_of_lt hn)

theorem valid_of_ofText? {text : String} (h : ofText? text = some t) : t.Valid := by
  unfold ofText? at h
  obtain ⟨⟨year, s⟩, _, h⟩ := Option.bind_eq_some_iff.mp h
  obtain ⟨s, _, h⟩ := Option.bind_eq_some_iff.mp h
  obtain ⟨⟨month, s⟩, _, h⟩ := Option.bind_eq_some_iff.mp h
  obtain ⟨s, _, h⟩ := Option.bind_eq_some_iff.mp h
  obtain ⟨⟨day, s⟩, _, h⟩ := Option.bind_eq_some_iff.mp h
  cases s with
  | nil => cases h
  | cons c s =>
    dsimp only at h
    by_cases hc : c ≠ 't' ∧ c ≠ 'T' ∧ c ≠ ' '
    · rw [if_pos hc] at h
      cases h
    · rw [if_neg hc] at h
      obtain ⟨⟨hour, s⟩, _, h⟩ := Option.bind_eq_some_iff.mp h
      obtain ⟨s, _, h⟩ := Option.bind_eq_some_iff.mp h
      obtain ⟨⟨minute, s⟩, _, h⟩ := Option.bind_eq_some_iff.mp h
      obtain ⟨s, _, h⟩ := Option.bind_eq_some_iff.mp h
      obtain ⟨⟨second, s⟩, _, h⟩ := Option.bind_eq_some_iff.mp h
      obtain ⟨⟨nano, s⟩, hn, h⟩ := Option.bind_eq_some_iff.mp h
      obtain ⟨⟨offset, s⟩, ho, h⟩ := Option.bind_eq_some_iff.mp h
      dsimp only at h
      split at h
      · cases h
      · exact valid_of_ofLocal? (offset?_minutes ho) (fraction?_lt hn) h

end Interlink.Timestamp
