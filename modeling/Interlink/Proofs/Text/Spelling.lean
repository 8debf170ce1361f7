import Interlink.Text.Blank
import Interlink.Text.LowerCase
import Mathlib

/-!
# Trimmed and lowered texts

What trimming leaves has no blank at either end, so trimming again changes nothing. Lower case turns blanks, and
nothing else, into blanks, which follows from a look at the two tables of characters.
-/

namespace Interlink.Text

variable {s : List Char} {b c : Char}

/-! ## Trimming -/

theorem trimEnd_eq_rdropWhile (s : List Char) : trimEnd s = s.rdropWhile isBlank := rfl

theorem trimEnd_trimEnd (s : List Char) : trimEnd (trimEnd s) = trimEnd s := by
  simp only [trimEnd_eq_rdropWhile, List.rdropWhile_idempotent]

theorem trimStart_cons_eq (h : isBlank c = false) (s : List Char) : trimStart (c :: s) = c :: s := by
  rw [trimStart, List.dropWhile_cons_of_neg (by simp [h])]

theorem head_trimStart (h : trimStart s = c :: s') : isBlank c = false := by
  have := List.head?_dropWhile_not isBlank s
  rw [show s.dropWhile isBlank = c :: s' from h] at this
  simpa using this

theorem trimStart_trim (s : List Char) : trimStart (trim s) = trim s := by
  unfold trim
  cases h : trimEnd (trimStart s) with
  | nil => rfl
  | cons c rest =>
    have hp : c :: rest <+: trimStart s := by
      rw [← h]
      exact List.rdropWhile_prefix isBlank (trimStart s)
    obtain ⟨more, hm⟩ := hp
    exact trimStart_cons_eq (head_trimStart hm.symm) rest

@[simp] theorem trim_trim (s : List Char) : trim (trim s) = trim s := by
  have h : trim (trim s) = trimEnd (trimStart (trim s)) := rfl
  rw [h, trimStart_trim]
  exact trimEnd_trimEnd (trimStart s)

theorem blank_of_trim_eq_nil (h : trim s = []) : ∀ c ∈ s, isBlank c = true := by
  have hs : trimStart s = [] := by
    cases hs : trimStart s with
    | nil => rfl
    | cons c rest =>
      have all := List.rdropWhile_eq_nil_iff.mp (hs ▸ h : (c :: rest).rdropWhile isBlank = [])
      exact absurd (all c List.mem_cons_self) (by rw [head_trimStart hs]; nofun)
  exact List.dropWhile_eq_nil_iff.mp hs

theorem trim_eq_nil_iff : trim s = [] ↔ ∀ c ∈ s, isBlank c = true := by
  refine ⟨blank_of_trim_eq_nil, fun h => ?_⟩
  rw [trim, trimStart, List.dropWhile_eq_nil_iff.mpr h]
  rfl

theorem trimmed_eq_empty_iff {t : String} : trimmed t = "" ↔ ∀ c ∈ t.toList, isBlank c = true := by
  rw [trimmed, String.ofList_eq_empty_iff, trim_eq_nil_iff]

theorem trim_ne_blank (h : isBlank b = true) : trim s ≠ [b] := by
  intro e
  have ht := trimStart_trim s
  rw [e, trimStart, List.dropWhile_cons_of_pos h] at ht
  cases ht

theorem exists_blanks_around (s : List Char) : ∃ left right, s = left ++ (trim s ++ right) ∧
    (∀ c ∈ left, isBlank c = true) ∧ ∀ c ∈ right, isBlank c = true := by
  refine ⟨s.takeWhile isBlank, (trimStart s).rtakeWhile isBlank, ?_, fun c hc => List.mem_takeWhile_imp hc,
    fun c hc => List.mem_rtakeWhile_imp hc⟩
  rw [trim, trimEnd_eq_rdropWhile, List.rdropWhile_append_rtakeWhile, trimStart, List.takeWhile_append_dropWhile]

/-! ## Lower case -/

def blankSpans : Ranges := (0x9, 0xD) :: (0x20, 0x20) :: blankRanges

theorem exists_span_of_isBlank (h : isBlank c = true) : ∃ r ∈ blankSpans, r.1 ≤ c.toNat ∧ c.toNat ≤ r.2 := by
  simp only [isBlank, Bool.or_eq_true, Bool.and_eq_true, decide_eq_true_eq, Ranges.contains, List.any_eq_true] at h
  rcases h with (rfl | ⟨ht, hr⟩) | ⟨_, r, hr, hb⟩
  · exact ⟨(0x20, 0x20), by simp [blankSpans], by decide⟩
  · exact ⟨(0x9, 0xD), by simp [blankSpans], Char.le_def.mp ht, Char.le_def.mp hr⟩
  · exact ⟨r, by simp [blankSpans, hr], hb⟩

/-- No run of letters with a lower case holds a blank or leads to one. -/
theorem runs_apart_from_blanks : ∀ run ∈ lowerRuns, ∀ r ∈ blankSpans,
    (run.2.1 < r.1 ∨ r.2 < run.1) ∧ (run.2.1 + run.2.2.2 < (r.1 : Int) ∨ (r.2 : Int) < run.1 + run.2.2.2) := by
  decide +kernel

theorem toNat_of_isBlank (h : isBlank c = true) : 0x9 ≤ c.toNat ∧ (c.toNat ≤ 0x20 ∨ 0x85 ≤ c.toNat) := by
  obtain ⟨r, hr, h1, h2⟩ := exists_span_of_isBlank h
  have all : ∀ r ∈ blankSpans, 0x9 ≤ r.1 ∧ (r.2 ≤ 0x20 ∨ 0x85 ≤ r.1) := by decide
  have := all r hr
  omega

def IsAlong (run : Nat × Nat × Nat × Int) (n : Nat) : Prop :=
  run.1 ≤ n ∧ n ≤ run.2.1 ∧ (n - run.1) % run.2.2.1 = 0

theorem lowerOffset_cases (n : Nat) : lowerOffset n = 0 ∨
    ∃ run ∈ lowerRuns, IsAlong run n ∧ lowerOffset n = run.2.2.2 := by
  unfold lowerOffset
  split
  · rename_i hf
    have hp := List.find?_some hf
    simp only [Bool.and_eq_true, decide_eq_true_eq, beq_iff_eq] at hp
    exact .inr ⟨_, List.mem_of_find?_eq_some hf, ⟨hp.1.1, hp.1.2, hp.2⟩, rfl⟩
  · exact .inl rfl

theorem isUpper_iff : c.isUpper = true ↔ 0x41 ≤ c.toNat ∧ c.toNat ≤ 0x5A := by
  simp only [Char.isUpper, decide_eq_true_eq, ge_iff_le, UInt32.le_iff_toNat_le]
  exact Iff.rfl

theorem lowerChar_of_isBlank (h : isBlank b = true) : lowerChar b = [b] := by
  obtain ⟨r, hr, h1, h2⟩ := exists_span_of_isBlank h
  unfold lowerChar
  split
  · have hu : ¬ b.isUpper = true := by
      have := toNat_of_isBlank h
      rw [isUpper_iff]
      omega
    rw [Char.toLower_eq_of_not_isUpper hu]
  · split
    · rename_i hb
      subst hb
      exact absurd h (by decide)
    · have zero : lowerOffset b.toNat = 0 := by
        rcases lowerOffset_cases b.toNat with h0 | ⟨run, hrun, ⟨ha, hb, _⟩, _⟩
        · exact h0
        · have := (runs_apart_from_blanks run hrun r hr).1
          omega
      rw [zero, Int.add_zero, Int.toNat_natCast, Char.ofNat_toNat]

theorem eq_of_lowerChar_eq_blank (h : isBlank b = true) (hc : lowerChar c = [b]) : c = b := by
  obtain ⟨r, hr, h1, h2⟩ := exists_span_of_isBlank h
  have hn := toNat_of_isBlank h
  unfold lowerChar at hc
  split at hc
  · obtain rfl := List.singleton_inj.mp hc
    by_cases hu : c.isUpper = true
    · have hletter := isUpper_iff.mp hu
      have hlower : c.toLower.toNat = c.toNat + 32 := by
        rw [Char.toLower_eq_of_isUpper hu, Char.toNat_ofNat, if_pos (.inl (by omega))]
      omega
    · exact (Char.toLower_eq_of_not_isUpper hu).symm
  · split at hc
    · cases hc
    · have hb := congrArg Char.toNat (List.singleton_inj.mp hc)
      rw [Char.toNat_ofNat] at hb
      rcases lowerOffset_cases c.toNat with h0 | ⟨run, hrun, ⟨ha, hz, _⟩, ho⟩
      · rw [h0, Int.add_zero, Int.toNat_natCast, Char.ofNat_toNat] at hc
        exact List.singleton_inj.mp hc
      · have := (runs_apart_from_blanks run hrun r hr).2
        split at hb <;> omega

theorem lowerChar_ne_nil (c : Char) : lowerChar c ≠ [] := by
  unfold lowerChar
  split
  · nofun
  · split <;> nofun

theorem lowerFrom_eq_nil {seen : List Char} (h : lowerFrom seen s = []) : s = [] := by
  cases s with
  | nil => rfl
  | cons c rest =>
    obtain ⟨here, _⟩ := List.append_eq_nil_iff.mp h
    split at here
    · cases here
    · exact absurd here (lowerChar_ne_nil c)

theorem lower_eq_nil (h : lower s = []) : s = [] := lowerFrom_eq_nil h

theorem eq_of_lower_eq_blank (h : isBlank b = true) (hs : lower s = [b]) : s = [b] := by
  cases s with
  | nil => cases hs
  | cons c rest =>
    rw [lower, lowerFrom] at hs
    by_cases hc : c = '\u03A3'
    · subst hc
      rw [if_pos rfl, List.singleton_append, List.cons.injEq] at hs
      obtain ⟨rfl, _⟩ := hs
      split at h <;> exact absurd h (by decide)
    · rw [if_neg hc] at hs
      obtain ⟨x, xs, hx⟩ := List.exists_cons_of_ne_nil (lowerChar_ne_nil c)
      rw [hx, List.cons_append, List.cons.injEq, List.append_eq_nil_iff] at hs
      obtain ⟨rfl, hxs, hrest⟩ := hs
      rw [hxs] at hx
      rw [eq_of_lowerChar_eq_blank h hx, lowerFrom_eq_nil hrest]

end Interlink.Text
