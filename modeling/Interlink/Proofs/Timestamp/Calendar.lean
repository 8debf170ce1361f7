import Interlink.Timestamp
import Mathlib

/-!
# The calendar

Every day has a date that exists, and the day of that date is the day itself. Dates are found within an era of
four hundred years, whose years begin on the first of March, so that a leap day is the last day of its year.
-/

namespace Interlink.Timestamp

/-! ## Years of an era -/

/-- The days of an era, which begins on a first of March, before its year `y`. -/
def daysBeforeEraYear (y : Nat) : Nat := 365 * y + y / 4 - y / 100 + y / 400

def yearOfEra (d : Nat) : Nat := (d - d / 1460 + d / 36524 - d / 146096) / 365

theorem yearOfEra_mono {d e : Nat} (h : d ≤ e) : yearOfEra d ≤ yearOfEra e := by
  induction h with
  | refl => exact Nat.le_refl _
  | step _ ih =>
    refine Nat.le_trans ih ?_
    unfold yearOfEra
    omega

theorem yearOfEra_ends : ∀ y < 400,
    yearOfEra (daysBeforeEraYear y) = y ∧ yearOfEra (daysBeforeEraYear (y + 1) - 1) = y := by
  decide +kernel

theorem exists_eraYear {d : Nat} (h : d < 146097) :
    ∃ y < 400, daysBeforeEraYear y ≤ d ∧ d < daysBeforeEraYear (y + 1) := by
  have search (n : Nat) (hd : d < daysBeforeEraYear n) :
      ∃ y < n, daysBeforeEraYear y ≤ d ∧ d < daysBeforeEraYear (y + 1) := by
    induction n with
    | zero => exact absurd hd (Nat.not_lt_zero d)
    | succ n ih =>
      by_cases hn : daysBeforeEraYear n ≤ d
      · exact ⟨n, Nat.lt_succ_self n, hn, hd⟩
      · obtain ⟨y, hy, hle⟩ := ih (Nat.lt_of_not_le hn)
        exact ⟨y, Nat.lt_succ_of_lt hy, hle⟩
  exact search 400 h

theorem yearOfEra_spec {d : Nat} (h : d < 146097) :
    yearOfEra d < 400 ∧ daysBeforeEraYear (yearOfEra d) ≤ d ∧ d < daysBeforeEraYear (yearOfEra d + 1) := by
  obtain ⟨y, hy, hle, hlt⟩ := exists_eraYear h
  obtain ⟨first, last⟩ := yearOfEra_ends y hy
  have below : y ≤ yearOfEra d := first ▸ yearOfEra_mono hle
  have above : yearOfEra d ≤ y := last ▸ yearOfEra_mono (Nat.le_pred_of_lt hlt)
  rw [Nat.le_antisymm above below]
  exact ⟨hy, hle, hlt⟩

/-! ## Months -/

def monthOfYear (r : Nat) : Nat := (5 * r + 2) / 153

theorem monthOfYear_spec {r : Nat} (h : r < 366) : monthOfYear r < 12 ∧ daysBeforeMonth (monthOfYear r) ≤ r := by
  unfold monthOfYear daysBeforeMonth
  omega

/-! ## Eras of the calendar -/

theorem eraYear_length : ∀ y < 400,
    daysBeforeEraYear (y + 1) = daysBeforeEraYear y + (if isLeapYear (y + 1 : Nat) then 366 else 365) := by
  decide +kernel

theorem daysBeforeYear_era {y : Nat} (h : y < 400) (era : Int) :
    daysBeforeYear (y + era * 400) = era * 146097 + daysBeforeEraYear y := by
  unfold daysBeforeYear daysBeforeEraYear
  omega

theorem isLeapYear_era (y era : Int) : isLeapYear (y + era * 400) = isLeapYear y := by
  have h4 : (y + era * 400) % 4 = y % 4 := by omega
  have h100 : (y + era * 400) % 100 = y % 100 := by omega
  have h400 : (y + era * 400) % 400 = y % 400 := by omega
  unfold isLeapYear
  rw [h4, h100, h400]

/-! ## Dates -/

/-- Years of the calendar begin in January, those of eras in March. -/
theorem dateOf_eq (day : Int) : ∃ (era : Int) (y r : Nat), y < 400 ∧
    r < (if isLeapYear (y + 1 : Nat) then 366 else 365) ∧ day + epochDay = era * 146097 + daysBeforeEraYear y + r ∧
      dateOf day =
        let m := monthOfYear r
        let month := if m < 10 then m + 3 else m - 9
        ((if month ≤ 2 then 1 else 0) + (y : Int) + era * 400, month, r - daysBeforeMonth m + 1) := by
  obtain ⟨d, hd⟩ : ∃ d : Nat, (day + epochDay) % 146097 = d :=
    ⟨_, (Int.toNat_of_nonneg (Int.emod_nonneg _ (by decide))).symm⟩
  have hlt : d < 146097 := by omega
  obtain ⟨hy, hle, hup⟩ := yearOfEra_spec hlt
  have start : 365 * yearOfEra d + yearOfEra d / 4 - yearOfEra d / 100 = daysBeforeEraYear (yearOfEra d) := by
    unfold daysBeforeEraYear
    omega
  refine ⟨(day + epochDay) / 146097, yearOfEra d, d - daysBeforeEraYear (yearOfEra d), hy, ?_, ?_, ?_⟩
  · rw [eraYear_length _ hy] at hup
    omega
  · omega
  · rw [← start]
    unfold dateOf
    dsimp only
    rw [hd, Int.toNat_natCast]
    rfl

theorem dayOf_dateOf (day : Int) : dayOf (dateOf day).1 (dateOf day).2.1 (dateOf day).2.2 = day := by
  obtain ⟨era, y, r, hy, hr, hday, hdate⟩ := dateOf_eq day
  have hr' : r < 366 := by split at hr <;> omega
  obtain ⟨hm, hmle⟩ := monthOfYear_spec hr'
  rw [hdate]
  dsimp only
  generalize monthOfYear r = m at *
  have year : (if (if m < 10 then m + 3 else m - 9) ≤ 2 then
      (if (if m < 10 then m + 3 else m - 9) ≤ 2 then 1 else 0) + (y : Int) + era * 400 - 1
      else (if (if m < 10 then m + 3 else m - 9) ≤ 2 then 1 else 0) + (y : Int) + era * 400) = y + era * 400 := by
    split <;> omega
  have month : ((if m < 10 then m + 3 else m - 9) + 9) % 12 = m := by split <;> omega
  unfold dayOf
  dsimp only
  rw [year, month, daysBeforeYear_era hy]
  omega

theorem dateOf_valid (day : Int) : 1 ≤ (dateOf day).2.1 ∧ (dateOf day).2.1 ≤ 12 ∧ 1 ≤ (dateOf day).2.2 ∧
    (dateOf day).2.2 ≤ daysInMonth (dateOf day).1 (dateOf day).2.1 := by
  obtain ⟨era, y, r, hy, hr, hday, hdate⟩ := dateOf_eq day
  have hr' : r < 366 := by split at hr <;> omega
  obtain ⟨hm, hmle⟩ := monthOfYear_spec hr'
  rw [hdate]
  dsimp only
  refine ⟨by split <;> omega, by split <;> omega, by omega, ?_⟩
  have bounds : 153 * monthOfYear r ≤ 5 * r + 2 ∧ 5 * r + 2 < 153 * (monthOfYear r + 1) := by
    unfold monthOfYear
    omega
  generalize monthOfYear r = m at *
  by_cases hf : m = 11
  · -- February ends the years of eras, and it alone has no fixed length.
    subst hf
    have leap : isLeapYear (1 + (y : Int) + era * 400) = isLeapYear (y + 1 : Nat) := by
      rw [isLeapYear_era, Int.add_comm]
      rfl
    change r - 337 + 1 ≤ if isLeapYear (1 + (y : Int) + era * 400) then 29 else 28
    rw [leap]
    split at hr
    · rename_i h
      rw [if_pos h]
      omega
    · rename_i h
      rw [if_neg h]
      omega
  · interval_cases m <;> simp [daysInMonth, daysBeforeMonth] at * <;> omega

end Interlink.Timestamp
