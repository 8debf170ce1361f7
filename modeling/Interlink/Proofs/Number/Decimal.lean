import Mathlib

/-!
# Decimal digits

What a text of digits is worth, and where it ends in a longer text.
-/

namespace Interlink

variable {n : Nat} {c : Char} {ds rest : List Char}

def NoDigitNext (rest : List Char) : Prop := ∀ c ∈ rest.head?, c.isDigit = false

theorem noDigitNext_nil : NoDigitNext [] := nofun

theorem noDigitNext_cons (h : c.isDigit = false) : NoDigitNext ((c :: rest).take n) := by
  cases n with
  | zero => exact noDigitNext_nil
  | succ n =>
    intro x hx
    obtain rfl := Option.some.inj hx
    exact h

theorem takeWhile_isDigit (h : NoDigitNext rest) : rest.takeWhile Char.isDigit = [] := by
  cases rest with
  | nil => rfl
  | cons c rest => exact List.takeWhile_cons_of_neg (by simp [h c rfl])

theorem takeWhile_isDigit_append (hd : ∀ c ∈ ds, c.isDigit = true) (h : NoDigitNext rest) :
    (ds ++ rest).takeWhile Char.isDigit = ds := by
  rw [List.takeWhile_append_of_pos hd, takeWhile_isDigit h, List.append_nil]

theorem dropWhile_isDigit_append (hd : ∀ c ∈ ds, c.isDigit = true) (h : NoDigitNext rest) :
    (ds ++ rest).dropWhile Char.isDigit = rest := by
  rw [List.dropWhile_append_of_pos hd]
  cases rest with
  | nil => rfl
  | cons c rest => exact List.dropWhile_cons_of_neg (by simp [h c rfl])

theorem toNat_of_isDigit (h : c.isDigit = true) : '0'.toNat ≤ c.toNat ∧ c.toNat ≤ '9'.toNat := by
  simp only [Char.isDigit, Bool.and_eq_true, decide_eq_true_eq] at h
  exact h

theorem digit_lt (h : c.isDigit = true) : c.toNat - '0'.toNat < 10 := by
  have most := (toNat_of_isDigit h).2
  have : '0'.toNat = 48 ∧ '9'.toNat = 57 := ⟨rfl, rfl⟩
  omega

theorem ofDigitChars_lt (hd : ∀ c ∈ ds, c.isDigit = true) : Nat.ofDigitChars 10 ds 0 < 10 ^ ds.length := by
  induction ds with
  | nil => decide
  | cons c ds ih =>
    have hc := digit_lt (hd c List.mem_cons_self)
    have htail := ih fun x hx => hd x (List.mem_cons_of_mem c hx)
    rw [Nat.ofDigitChars_cons, Nat.ofDigitChars_eq_ofDigitChars_zero, List.length_cons, Nat.pow_succ]
    calc
      _ < 10 ^ ds.length * (10 * 0 + (c.toNat - '0'.toNat)) + 10 ^ ds.length := Nat.add_lt_add_left htail _
      _ = 10 ^ ds.length * (10 * 0 + (c.toNat - '0'.toNat) + 1) := (Nat.mul_succ _ _).symm
      _ ≤ 10 ^ ds.length * 10 := Nat.mul_le_mul_left _ (by omega)

theorem isDigit_of_mem_toDigits (h : c ∈ Nat.toDigits 10 n) : c.isDigit = true :=
  Nat.isDigit_of_mem_toDigits (by decide) (by decide) h

theorem exists_digit_toDigits (n : Nat) : ∃ c ds, Nat.toDigits 10 n = c :: ds ∧ c.isDigit = true := by
  obtain ⟨c, ds, h⟩ := List.exists_cons_of_ne_nil (Nat.toDigits_ne_nil (b := 10) (n := n))
  exact ⟨c, ds, h, isDigit_of_mem_toDigits (h ▸ List.mem_cons_self)⟩

theorem toDigits_ne_zero_cons {d : Char} : Nat.toDigits 10 n ≠ '0' :: d :: ds := by
  intro h
  have hd : ∀ c ∈ d :: ds, c.isDigit = true := fun c hc =>
    isDigit_of_mem_toDigits (h ▸ List.mem_cons_of_mem '0' hc)
  have hn : n = Nat.ofDigitChars 10 (d :: ds) 0 := by
    rw [← Nat.ofDigitChars_ten_toDigits (n := n), h, Nat.ofDigitChars_cons]
    rfl
  have hlt : n < 10 ^ (d :: ds).length := by
    rw [hn]
    exact ofDigitChars_lt hd
  have hlen := (Nat.length_toDigits_le_iff (by decide) (Nat.succ_pos _)).mpr hlt
  rw [h] at hlen
  exact absurd hlen (Nat.not_succ_le_self _)

end Interlink
