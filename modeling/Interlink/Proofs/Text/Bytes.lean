import Mathlib

/-!
# Texts as bytes

The bytes of a text in UTF-8. A byte below 128 is a character of its own and no part of any other,
so what is found by looking for it in the bytes stands between characters.
-/

namespace Interlink.Text

variable {s t : List Char} {a c : Char}

def bytes (s : List Char) : List UInt8 := s.flatMap String.utf8EncodeChar

@[simp] theorem bytes_nil : bytes [] = [] := rfl

@[simp] theorem bytes_cons (c : Char) (s : List Char) : bytes (c :: s) = String.utf8EncodeChar c ++ bytes s := rfl

@[simp] theorem bytes_append (s t : List Char) : bytes (s ++ t) = bytes s ++ bytes t := List.flatMap_append

theorem bytes_replicate {b : UInt8} (h : String.utf8EncodeChar c = [b]) (n : Nat) :
    bytes (List.replicate n c) = List.replicate n b := by
  induction n with
  | zero => rfl
  | succ n ih => rw [List.replicate_succ, bytes_cons, h, ih]; rfl

theorem bytes_injective : Function.Injective bytes := by
  intro s t h
  have encoded : s.utf8Encode = t.utf8Encode := congrArg List.toByteArray h
  have decoded := congrArg ByteArray.utf8Decode? encoded
  rw [List.utf8Decode?_utf8Encode, List.utf8Decode?_utf8Encode] at decoded
  exact List.toArray_inj (Option.some_inj.mp decoded)

theorem utf8EncodeChar_of_lt (h : c.toNat < 128) : String.utf8EncodeChar c = [UInt8.ofNat c.toNat] := by
  have short : c.val.toNat ≤ 127 := Nat.le_of_lt_succ h
  unfold String.utf8EncodeChar
  exact if_pos short

theorem le_of_mem_utf8EncodeChar {b : UInt8} (h : 128 ≤ c.toNat) (hb : b ∈ String.utf8EncodeChar c) :
    128 ≤ b.toNat := by
  have wide : ¬ c.val.toNat ≤ 127 := Nat.not_le.mpr h
  unfold String.utf8EncodeChar at hb
  dsimp only at hb
  rw [if_neg wide] at hb
  split at hb
  · simp only [List.mem_cons, List.not_mem_nil, or_false] at hb
    rcases hb with rfl | rfl <;> simp only [UInt8.toNat_ofNat'] <;> omega
  · split at hb
    · simp only [List.mem_cons, List.not_mem_nil, or_false] at hb
      rcases hb with rfl | rfl | rfl <;> simp only [UInt8.toNat_ofNat'] <;> omega
    · simp only [List.mem_cons, List.not_mem_nil, or_false] at hb
      rcases hb with rfl | rfl | rfl | rfl <;> simp only [UInt8.toNat_ofNat'] <;> omega

/-- A byte below 128 is part of no other character. -/
theorem eq_of_mem_utf8EncodeChar (ha : a.toNat < 128) (h : UInt8.ofNat a.toNat ∈ String.utf8EncodeChar c) :
    c = a := by
  have small : (UInt8.ofNat a.toNat).toNat = a.toNat := by
    rw [UInt8.toNat_ofNat']
    omega
  rcases Nat.lt_or_ge c.toNat 128 with hc | hc
  · rw [utf8EncodeChar_of_lt hc, List.mem_singleton] at h
    have same := congrArg UInt8.toNat h
    rw [small, UInt8.toNat_ofNat', Nat.mod_eq_of_lt (by omega)] at same
    exact Char.toNat_inj.mp same.symm
  · have := le_of_mem_utf8EncodeChar hc h
    omega

theorem mem_of_mem_bytes (ha : a.toNat < 128) (h : UInt8.ofNat a.toNat ∈ bytes s) : a ∈ s := by
  obtain ⟨c, hc, hb⟩ := List.mem_flatMap.mp h
  exact eq_of_mem_utf8EncodeChar ha hb ▸ hc

theorem utf8ByteSize_ofList (s : List Char) : (String.ofList s).utf8ByteSize = (bytes s).length := by
  rw [← String.size_toByteArray, String.toByteArray_ofList]
  exact List.size_toByteArray

/-- A text may be cut after any of its beginnings. -/
theorem isValid_length_bytes (s t : List Char) :
    String.Pos.Raw.IsValid (String.ofList (s ++ t)) ⟨(bytes s).length⟩ := by
  refine String.Pos.Raw.isValid_iff_exists_append.mpr ⟨String.ofList s, String.ofList t, String.ofList_append, ?_⟩
  rw [String.Pos.Raw.ext_iff, ← utf8ByteSize_ofList]
  rfl

end Interlink.Text
