import Interlink.Proofs.Text.Spelling
import Interlink.Text.Alphanumeric

/-!
# What lower case leads to

The tables of the standard show that no letter that has a lower case is the lower case of another,
and that lower case is alphanumeric. The dotted capital I is apart: its lower case has two
characters, and the second is a mark that is not alphanumeric. A small letter of ASCII is the lower
case of itself and its capital only, but k is that of the Kelvin sign too.
-/

namespace Interlink.Text

variable {c d k : Char} {n : Nat} {s ks : List Char} {run : Nat × Nat × Nat × Int}

/-! ## The tables -/

def capitalRuns : List (Nat × Nat × Nat × Int) := (0x41, 0x5A, 1, 32) :: lowerRuns

def dottedRun : Nat × Nat × Nat × Int := (0x130, 0x130, 1, 0)

def led (run : Nat × Nat × Nat × Int) (n : Nat) : Nat := (n + run.2.2.2).toNat

/-- None of the code points from `lo` to `hi` in such steps is along the run. Either the two are
apart, or they go in steps of two, one through the odd and the other through the even code points. -/
def misses (lo hi step : Nat) (run : Nat × Nat × Nat × Int) : Bool :=
  hi.blt run.1 || run.2.1.blt lo ||
    (run.2.2.1.beq 2 && (step.beq 2 || lo.beq hi) && ((lo - run.1) % 2).beq 1)

def letterRanges : Ranges := (0x61, 0x7A) :: alphanumericRanges

def within (lo hi : Nat) (range : Nat × Nat) : Bool := range.1.ble lo && hi.ble range.2

theorem runs_lead_out : (capitalRuns.all fun run =>
    (dottedRun :: capitalRuns).all (misses (led run run.1) (led run run.2.1) run.2.2.1)) = true := by
  decide +kernel

theorem runs_lead_to_letters : (capitalRuns.all fun run =>
    letterRanges.any (within (led run run.1) (led run run.2.1))) = true := by
  decide +kernel

/-- The ranges keep clear of the code points that are no characters. -/
theorem letterRanges_valid : ∀ r ∈ letterRanges, 0x61 ≤ r.1 ∧ (r.2 < 0xD800 ∨ 0xDFFF < r.1 ∧ r.2 < 0x110000) := by
  decide +kernel

theorem alphanumericRanges_beyond : ∀ r ∈ alphanumericRanges, 0x80 ≤ r.1 := by decide +kernel

/-! ## Letters -/

theorem isLower_iff : c.isLower = true ↔ 0x61 ≤ c.toNat ∧ c.toNat ≤ 0x7A := by
  simp only [Char.isLower, Bool.and_eq_true, decide_eq_true_eq, ge_iff_le, UInt32.le_iff_toNat_le]
  exact Iff.rfl

theorem exists_letters (hr : run ∈ capitalRuns) (h : IsAlong run n) :
    ∃ r ∈ letterRanges, r.1 ≤ led run n ∧ led run n ≤ r.2 := by
  obtain ⟨r, mem, fits⟩ := List.any_eq_true.mp (List.all_eq_true.mp runs_lead_to_letters run hr)
  rw [within, Bool.and_eq_true, Nat.ble_eq, Nat.ble_eq] at fits
  have := (letterRanges_valid r mem).1
  obtain ⟨first, last, -⟩ := h
  unfold led at fits ⊢
  exact ⟨r, mem, by omega, by omega⟩

theorem toNat_ofNat_led (hr : run ∈ capitalRuns) (h : IsAlong run n) :
    (Char.ofNat (led run n)).toNat = led run n := by
  obtain ⟨r, mem, lo, hi⟩ := exists_letters hr h
  have := letterRanges_valid r mem
  rw [Char.toNat_ofNat, if_pos]
  unfold Nat.isValidChar
  omega

theorem isAlphanumeric_of_mem_letterRanges {r : Nat × Nat} (h : r ∈ letterRanges) (lo : r.1 ≤ c.toNat)
    (hi : c.toNat ≤ r.2) : isAlphanumeric c = true := by
  rcases List.mem_cons.mp h with rfl | h
  · refine isAlphanumeric_of_isAlphanum ?_
    have lower : c.isLower = true := isLower_iff.mpr ⟨lo, hi⟩
    simp [Char.isAlphanum, Char.isAlpha, lower]
  · have beyond := alphanumericRanges_beyond r h
    simp only [isAlphanumeric, Ranges.contains, Bool.or_eq_true, Bool.and_eq_true, decide_eq_true_eq,
      List.any_eq_true]
    exact .inr ⟨by omega, r, h, lo, hi⟩

/-- No letter that a run leads to is along a run. -/
theorem not_isAlong_led (hr : run ∈ capitalRuns) (h : IsAlong run n) {other : Nat × Nat × Nat × Int}
    (ho : other ∈ dottedRun :: capitalRuns) : ¬ IsAlong other (led run n) := by
  have apart := List.all_eq_true.mp (List.all_eq_true.mp runs_lead_out run hr) other ho
  have start : IsAlong run run.1 := ⟨le_rfl, h.1.trans h.2.1, by rw [Nat.sub_self, Nat.zero_mod]⟩
  obtain ⟨r, mem, lo, -⟩ := exists_letters hr start
  have := (letterRanges_valid r mem).1
  simp only [misses, Bool.or_eq_true, Bool.and_eq_true, Nat.blt_eq, Nat.beq_eq] at apart
  obtain ⟨first, last, step⟩ := h
  rintro ⟨first', last', step'⟩
  have from_start : led run n - led run run.1 = n - run.1 := by
    unfold led at *
    omega
  have up_to : led run n ≤ led run run.2.1 := by
    unfold led
    omega
  have not_before : led run run.1 ≤ led run n := by
    unfold led
    omega
  rcases apart with (apart | apart) | ⟨⟨two, alike⟩, odd⟩
  · omega
  · omega
  · rw [two] at step'
    rcases alike with two | same
    · rw [two] at step
      omega
    · omega

/-! ## Lower case of lower case -/

theorem lowerChar_cases (c : Char) : c = '\u0130' ∨ lowerChar c = [c] ∨
    ∃ run ∈ capitalRuns, IsAlong run c.toNat ∧ lowerChar c = [Char.ofNat (led run c.toNat)] := by
  unfold lowerChar
  split
  · by_cases upper : c.isUpper = true
    · refine .inr (.inr ⟨_, List.mem_cons_self, ?_, by rw [Char.toLower_eq_of_isUpper upper]; rfl⟩)
      exact ⟨(isUpper_iff.mp upper).1, (isUpper_iff.mp upper).2, Nat.mod_one _⟩
    · rw [Char.toLower_eq_of_not_isUpper upper]
      exact .inr (.inl rfl)
  · split
    · exact .inl ‹_›
    · rcases lowerOffset_cases c.toNat with none | ⟨run, hr, along, offset⟩
      · rw [none, Int.add_zero, Int.toNat_natCast, Char.ofNat_toNat]
        exact .inr (.inl rfl)
      · rw [offset]
        exact .inr (.inr ⟨run, List.mem_cons_of_mem _ hr, along, rfl⟩)

theorem lowerChar_mark : lowerChar '\u0307' = ['\u0307'] := by
  have still : lowerOffset 0x307 = 0 := by decide +kernel
  have code : '\u0307'.toNat = 0x307 := rfl
  rw [lowerChar, code, still, if_neg (by decide), if_neg (by decide)]
  rfl

theorem lowerChar_of_mem_lowerChar (h : d ∈ lowerChar c) : lowerChar d = [d] := by
  rcases lowerChar_cases c with rfl | same | ⟨run, hr, along, leads⟩
  · rcases List.mem_cons.mp (show d ∈ ['i', '\u0307'] from h) with rfl | h
    · rfl
    · rw [List.mem_singleton.mp h]
      exact lowerChar_mark
  · rw [same] at h
    rwa [List.mem_singleton.mp h]
  · rw [leads] at h
    obtain rfl := List.mem_singleton.mp h
    have led_to := toNat_ofNat_led hr along
    have missed {other} (ho : other ∈ dottedRun :: capitalRuns) := not_isAlong_led hr along ho
    rcases lowerChar_cases (Char.ofNat (led run c.toNat)) with dotted | same | ⟨other, ho, along', _⟩
    · refine absurd ?_ (missed List.mem_cons_self)
      rw [← led_to, dotted]
      exact ⟨le_rfl, le_rfl, rfl⟩
    · exact same
    · rw [led_to] at along'
      exact absurd along' (missed (List.mem_cons_of_mem _ ho))

theorem isAlphanumeric_of_mem_lowerChar (hc : isAlphanumeric c = true) (h : d ∈ lowerChar c) :
    isAlphanumeric d = true ∨ c = '\u0130' ∧ d = '\u0307' := by
  rcases lowerChar_cases c with rfl | same | ⟨run, hr, along, leads⟩
  · rcases List.mem_cons.mp (show d ∈ ['i', '\u0307'] from h) with rfl | h
    · exact .inl (by decide)
    · exact .inr ⟨rfl, List.mem_singleton.mp h⟩
  · rw [same] at h
    rw [List.mem_singleton.mp h]
    exact .inl hc
  · rw [leads] at h
    obtain rfl := List.mem_singleton.mp h
    obtain ⟨r, mem, lo, hi⟩ := exists_letters hr along
    have led_to := toNat_ofNat_led hr along
    exact .inl (isAlphanumeric_of_mem_letterRanges mem (led_to.symm ▸ lo) (led_to.symm ▸ hi))

/-- A text is in lower case if each character is. The capital sigma, whose lower case its place
decides, is not. -/
theorem lower_eq_self (h : ∀ c ∈ s, lowerChar c = [c]) : lower s = s := by
  have all (seen s : List Char) (h : ∀ c ∈ s, lowerChar c = [c]) : lowerFrom seen s = s := by
    induction s generalizing seen with
    | nil => rfl
    | cons c rest ih =>
      obtain ⟨here, later⟩ := List.forall_mem_cons.mp h
      have sigma : c ≠ '\u03A3' := by
        rintro rfl
        exact absurd here (by decide +kernel)
      rw [lowerFrom, if_neg sigma, here, ih _ later]
      rfl
  exact all [] s h

/-! ## Small letters of ASCII -/

set_option maxRecDepth 8000 in
/-- Besides the capitals of ASCII only the Kelvin sign leads back to ASCII. -/
theorem runs_lead_beyond : (capitalRuns.all fun run =>
    run == (0x41, 0x5A, 1, 32) || run == (0x212A, 0x212A, 1, -8383) || Nat.blt 0x7A (led run run.1)) = true := by
  decide

theorem toNat_toUpper (h : k.isLower = true) : k.toUpper.toNat = k.toNat - 32 := by
  have := isLower_iff.mp h
  rw [Char.toUpper_eq_of_isLower h, Char.toNat_ofNat, if_pos (.inl (by omega))]

theorem lowerChar_of_isLower (h : k.isLower = true) : lowerChar k = [k] := by
  have := isLower_iff.mp h
  have small : ¬ k.isUpper = true := by
    rw [isUpper_iff]
    omega
  rw [lowerChar, if_pos (by omega), Char.toLower_eq_of_not_isUpper small]

theorem lowerChar_toUpper (h : k.isLower = true) : lowerChar k.toUpper = [k] := by
  have bounds := isLower_iff.mp h
  have code := toNat_toUpper h
  have capital : k.toUpper.isUpper = true := by
    rw [isUpper_iff]
    omega
  have back : k.toUpper.toNat + 32 = k.toNat := by omega
  rw [lowerChar, if_pos (by omega), Char.toLower_eq_of_isUpper capital, back, Char.ofNat_toNat]

theorem lowerChar_eq_iff (h : k.isLower = true) :
    lowerChar c = [k] ↔ c = k ∨ c = k.toUpper ∨ k = 'k' ∧ c = '\u212A' := by
  constructor
  · intro hc
    rcases lowerChar_cases c with rfl | still | ⟨run, hr, along, leads⟩
    · cases hc
    · exact .inl (List.singleton_inj.mp (still.symm.trans hc))
    · have letter := toNat_ofNat_led hr along
      rw [List.singleton_inj.mp (leads.symm.trans hc)] at letter
      have known := List.all_eq_true.mp runs_lead_beyond run hr
      simp only [Bool.or_eq_true, beq_iff_eq, Nat.blt_eq] at known
      have bounds := isLower_iff.mp h
      obtain ⟨first, last, -⟩ := along
      unfold led at letter known
      rcases known with (rfl | rfl) | beyond
      · dsimp only at letter
        refine .inr (.inl (Char.toNat_inj.mp ?_))
        rw [toNat_toUpper h]
        omega
      · dsimp only at letter first last
        have kelvin : c.toNat = '\u212A'.toNat := Nat.le_antisymm last first
        refine .inr (.inr ⟨Char.toNat_inj.mp ?_, Char.toNat_inj.mp kelvin⟩)
        rw [letter, kelvin]
        rfl
      · omega
  · rintro (rfl | rfl | ⟨rfl, rfl⟩)
    · exact lowerChar_of_isLower h
    · exact lowerChar_toUpper h
    · rfl

theorem lowerChar_ne_of_lt (h : k.isLower = true) (beyond : 0x7A < c.toNat) (other : c ≠ '\u212A') :
    lowerChar c ≠ [k] := by
  have bounds := isLower_iff.mp h
  have code := toNat_toUpper h
  rw [Ne, lowerChar_eq_iff h]
  rintro (rfl | rfl | ⟨-, kelvin⟩)
  · omega
  · omega
  · exact other kelvin

theorem lowerFrom_cons_eq_iff (hk : ∀ d ∈ k :: ks, d.isLower = true) (seen : List Char) :
    lowerFrom seen (c :: s) = k :: ks ↔ lowerChar c = [k] ∧ lowerFrom (c :: seen) s = ks := by
  have ascii {d : Char} (hd : d ∈ k :: ks) : ¬ 0x7A < d.toNat := Nat.not_lt.mpr (isLower_iff.mp (hk d hd)).2
  rw [lowerFrom]
  by_cases sigma : c = '\u03A3'
  · subst sigma
    rw [if_pos rfl, List.singleton_append, List.cons.injEq]
    refine iff_of_false (fun h => ascii List.mem_cons_self ?_) (fun h => ?_)
    · rw [← h.1]
      split <;> decide
    · exact lowerChar_ne_of_lt (hk k List.mem_cons_self) (by decide) (by decide) h.1
  · rw [if_neg sigma]
    rcases lowerChar_cases c with rfl | same | ⟨run, -, -, leads⟩
    · have dotted : lowerChar '\u0130' = ['i', '\u0307'] := rfl
      rw [dotted]
      refine iff_of_false (fun h => ?_) (fun h => ?_)
      · obtain ⟨-, rfl⟩ := List.cons.inj h
        exact ascii (d := '\u0307') (by simp) (by decide)
      · cases h.1
    · rw [same, List.singleton_append, List.cons.injEq, List.singleton_inj]
    · rw [leads, List.singleton_append, List.cons.injEq, List.singleton_inj]

theorem lower_eq_iff (hk : ∀ d ∈ ks, d.isLower = true) :
    lower s = ks ↔ List.Forall₂ (fun k c => lowerChar c = [k]) ks s := by
  have all (seen : List Char) : lowerFrom seen s = ks ↔ List.Forall₂ (fun k c => lowerChar c = [k]) ks s := by
    induction s generalizing seen ks with
    | nil =>
      rw [List.forall₂_nil_right_iff]
      exact eq_comm
    | cons c s ih =>
      cases ks with
      | nil =>
        rw [List.forall₂_nil_left_iff]
        exact iff_of_false (fun h => nomatch lowerFrom_eq_nil h) nofun
      | cons k ks =>
        rw [lowerFrom_cons_eq_iff hk, ih (List.forall_mem_cons.mp hk).2, List.forall₂_cons]
  exact all []

end Interlink.Text
