import Interlink.Json.Reader
import Interlink.Json.Writer
import Interlink.Proofs.Number.Decimal

/-!
# Texts and numbers in JSON

A text or a whole number is read back from what is written for it, whatever follows. Every character
has a word of its own between the quotes; a number ends where something else than a number begins.
-/

namespace Interlink.Json

variable {fuel n : Nat} {s rest : List Char} {c : Char}

/-! ## Texts -/

theorem unitOf_control (h : c.toNat < 0x20) : unitOf c.toNat = .char c := by
  have high : isHighHalf c.toNat = false := by
    unfold isHighHalf
    simp; omega
  have low : isLowHalf c.toNat = false := by
    unfold isLowHalf
    simp; omega
  rw [unitOf, high, low, if_neg (by decide), Char.ofNat_toNat]

theorem natural?_control : ∀ n < 0x20,
    Numeral.natural? 16 ['0', '0', hexDigit (n / 16), hexDigit (n % 16)] = some n := by
  decide +kernel

theorem first?_control (h : n < 0x20) :
    Numeral.first? 16 4 ('0' :: '0' :: hexDigit (n / 16) :: hexDigit (n % 16) :: s) = some (n, s) := by
  unfold Numeral.first?
  rw [if_neg (by simp)]
  have front : ('0' :: '0' :: hexDigit (n / 16) :: hexDigit (n % 16) :: s).take 4 =
      ['0', '0', hexDigit (n / 16), hexDigit (n % 16)] := rfl
  rw [front, natural?_control n h]
  rfl

theorem map_units? (u : Unit16) (r : Option (List Unit16 × List Char)) :
    (do let (us, rest) ← r; return (u :: us, rest)) = r.map fun (us, rest) => (u :: us, rest) := by
  cases r <;> rfl

theorem units?_plain (hq : c ≠ '\x22') (hb : c ≠ '\\') (h : ¬ c.toNat < 0x20) :
    units? (fuel + 1) (c :: s) = (units? fuel s).map fun (us, rest) => (.char c :: us, rest) := by
  rw [units?]
  · rw [if_neg (not_or.mpr ⟨hb, h⟩)]
    exact map_units? _ _
  · exact hq
  · intro _ e
    exact absurd e hb
  · intro _ _ e
    exact absurd e hb

theorem units?_escape (c : Char) : units? (fuel + 1) (escape c ++ s) =
    (units? fuel s).map fun (us, rest) => (.char c :: us, rest) := by
  have simple (x e : Char) (h : simpleEscapes.lookup x = some e) (hu : x ≠ 'u') :
      units? (fuel + 1) ('\\' :: x :: s) = (units? fuel s).map fun (us, rest) => (.char e :: us, rest) := by
    rw [units?]
    · rw [h]
      exact map_units? _ _
    · exact fun e => absurd e hu
  unfold escape
  split_ifs with quote backslash back feed line carriage tab control
  · exact quote ▸ simple '\x22' '\x22' rfl (by decide)
  · exact backslash ▸ simple '\\' '\\' rfl (by decide)
  · exact back ▸ simple 'b' '\x08' rfl (by decide)
  · exact feed ▸ simple 'f' '\x0C' rfl (by decide)
  · exact line ▸ simple 'n' '\n' rfl (by decide)
  · exact carriage ▸ simple 'r' '\r' rfl (by decide)
  · exact tab ▸ simple 't' '\t' rfl (by decide)
  · change units? (fuel + 1)
      ('\\' :: 'u' :: '0' :: '0' :: hexDigit (c.toNat / 16) :: hexDigit (c.toNat % 16) :: s) = _
    rw [units?, first?_control control]
    dsimp only [Option.bind_eq_bind, Option.bind_some]
    rw [unitOf_control control]
    exact map_units? _ _
  · exact units?_plain quote backslash control

theorem escape_ne_nil (c : Char) : escape c ≠ [] := by
  unfold escape
  split_ifs <;> exact List.cons_ne_nil _ _

theorem length_le_flatMap_escape (s : List Char) : s.length ≤ (s.flatMap escape).length := by
  induction s with
  | nil => exact Nat.le_refl 0
  | cons c s ih =>
    have pos := List.length_pos_iff.mpr (escape_ne_nil c)
    rw [List.flatMap_cons, List.length_append, List.length_cons]
    omega

theorem units?_flatMap_escape (h : s.length < fuel) :
    units? fuel (s.flatMap escape ++ '\x22' :: rest) = some (s.map .char, rest) := by
  induction s generalizing fuel with
  | nil =>
    obtain ⟨f, rfl⟩ := Nat.exists_eq_add_of_lt h
    rfl
  | cons c s ih =>
    obtain ⟨f, rfl⟩ := Nat.exists_eq_add_of_lt h
    rw [List.flatMap_cons, List.append_assoc, units?_escape, ih (by rw [List.length_cons]; omega)]
    rfl

theorem chars?_map_char (s : List Char) : chars? (s.map .char) = some s := by
  induction s with
  | nil => rfl
  | cons c s ih => rw [List.map_cons, chars?, ih, Option.map_some]

theorem string?_text (t : String) : string? (t.toList.flatMap escape ++ '\x22' :: rest) = some (some t, rest) := by
  have long : t.toList.length < (t.toList.flatMap escape ++ '\x22' :: rest).length + 1 := by
    have := length_le_flatMap_escape t.toList
    rw [List.length_append]
    omega
  rw [string?, units?_flatMap_escape long, Option.map_some]
  dsimp only
  rw [chars?_map_char, Option.map_some, String.ofList_toList]

/-! ## Numbers -/

def NumberEnds (rest : List Char) : Prop :=
  ∀ c ∈ rest.head?, c.isDigit = false ∧ c ≠ '.' ∧ c ≠ 'e' ∧ c ≠ 'E'

theorem NumberEnds.noDigitNext (h : NumberEnds rest) : NoDigitNext rest := fun c hc => (h c hc).1

def digitValue (c : Char) : Nat := c.toNat - '0'.toNat

theorem digits_toDigits (h : NumberEnds rest) :
    digits (Nat.toDigits 10 n ++ rest) = ((Nat.toDigits 10 n).map digitValue, rest) := by
  have hd : ∀ c ∈ Nat.toDigits 10 n, c.isDigit = true := fun _ => isDigit_of_mem_toDigits
  rw [digits, takeWhile_isDigit_append hd h.noDigitNext, dropWhile_isDigit_append hd h.noDigitNext]
  rfl

theorem le_foldl_digits (ds : List Nat) (v : Nat) : v ≤ ds.foldl (fun n d => n * 10 + d) v := by
  induction ds generalizing v with
  | nil => exact Nat.le_refl v
  | cons d ds ih => exact Nat.le_trans (by omega) (ih (v * 10 + d))

theorem addWhole_eq {ds : List Nat} {v : Nat} (h : ds.foldl (fun n d => n * 10 + d) v < wordLimit) :
    (⟨v, 0⟩ : Significand).addWhole ds = ⟨ds.foldl (fun n d => n * 10 + d) v, 0⟩ := by
  induction ds generalizing v with
  | nil => rfl
  | cons d ds ih =>
    have fits : v * 10 + d < wordLimit := Nat.lt_of_le_of_lt (le_foldl_digits ds _) h
    rw [Significand.addWhole, if_pos fits]
    exact ih h

theorem foldl_toDigits (n : Nat) : ((Nat.toDigits 10 n).map digitValue).foldl (fun n d => n * 10 + d) 0 = n := by
  rw [List.foldl_map]
  refine Eq.trans ?_ (Nat.ofDigitChars_ten_toDigits (n := n))
  simp only [Nat.ofDigitChars_eq_foldl, Nat.mul_comm, digitValue]

theorem map_digitValue_ne (n d : Nat) (ds : List Nat) : (Nat.toDigits 10 n).map digitValue ≠ 0 :: d :: ds := by
  intro h
  obtain ⟨c, cs, hcs, hc, htail⟩ := List.map_eq_cons_iff.mp h
  obtain ⟨c', cs', rfl, _, _⟩ := List.map_eq_cons_iff.mp htail
  have zero : c = '0' := by
    have least := (toNat_of_isDigit (isDigit_of_mem_toDigits (hcs ▸ List.mem_cons_self))).1
    have value : c.toNat = '0'.toNat := Nat.le_antisymm (Nat.sub_eq_zero_iff_le.mp hc) least
    rw [← Char.ofNat_toNat c, value]
    rfl
  rw [zero] at hcs
  exact toDigits_ne_zero_cons hcs

theorem unsigned?_toDigits (h : n < wordLimit) (ends : NumberEnds rest) :
    unsigned? false (Nat.toDigits 10 n ++ rest) = some (.int n, rest) := by
  have fits : (⟨0, 0⟩ : Significand).addWhole ((Nat.toDigits 10 n).map digitValue) = ⟨n, 0⟩ := by
    have sum := foldl_toDigits n
    rw [addWhole_eq (sum.symm ▸ h), sum]
  have nonempty : (Nat.toDigits 10 n).map digitValue ≠ [] := by
    simp
  unfold unsigned?
  rw [digits_toDigits ends]
  dsimp only
  rw [fits]
  split
  · rename_i none
    exact absurd none nonempty
  · rename_i zero
    exact absurd zero (map_digitValue_ne n _ _)
  · exact absurd rfl (ends '.' rfl).2.1
  · rename_i s _ _ _ _ _
    cases s with
    | nil => rfl
    | cons c s =>
      obtain ⟨_, _, he, hE⟩ := ends c rfl
      dsimp only
      rw [if_neg (not_or.mpr ⟨he, hE⟩)]
      rfl

theorem number?_toDigits (h : n < wordLimit) (ends : NumberEnds rest) :
    number? (Nat.toDigits 10 n ++ rest) = some (.int n, rest) := by
  rw [← unsigned?_toDigits h ends]
  obtain ⟨c, ds, hds, digit⟩ := exists_digit_toDigits n
  rw [hds, List.cons_append]
  unfold number?
  split
  · rename_i e
    rw [(List.cons.inj e).1] at digit
    cases digit
  · rfl

end Interlink.Json
