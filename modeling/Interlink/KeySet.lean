/-!
# Sets of keys

A finite set of texts, kept as its members in increasing order, so that equal sets are equal values and
listing a set needs no choice.
-/

namespace Interlink

theorem lt_of_not_lt_of_ne {a b : String} (h : ¬ a < b) (hne : a ≠ b) : b < a :=
  Std.lt_of_le_of_ne (String.not_lt.mp h) (Ne.symm hne)

/-- The order of lists of texts, in which a list goes after its beginnings. -/
def listPrecedes : List String → List String → Bool
  | [], _ => true
  | _ :: _, [] => false
  | a :: as, b :: bs => if a = b then listPrecedes as bs else a < b

@[ext]
structure KeySet where
  toList : List String
  sorted : toList.Pairwise (· < ·) := by simp
deriving DecidableEq

namespace KeySet

instance : Inhabited KeySet := ⟨{ toList := [] }⟩

def empty : KeySet := { toList := [] }

def insertKey (k : String) : List String → List String
  | [] => [k]
  | x :: xs => if k < x then k :: x :: xs else if k = x then x :: xs else x :: insertKey k xs

theorem mem_insertKey {k x : String} {xs : List String} : x ∈ insertKey k xs ↔ x = k ∨ x ∈ xs := by
  induction xs with
  | nil => simp [insertKey]
  | cons y ys ih =>
    simp only [insertKey]
    split
    · simp
    · split
      · rename_i h; subst h; simp
      · simp only [List.mem_cons, ih]; grind

theorem sorted_insertKey (k : String) {xs : List String} (h : xs.Pairwise (· < ·)) :
    (insertKey k xs).Pairwise (· < ·) := by
  induction xs with
  | nil => simp [insertKey]
  | cons y ys ih =>
    obtain ⟨hy, hys⟩ := List.pairwise_cons.mp h
    simp only [insertKey]
    split
    · rename_i hk
      refine List.pairwise_cons.mpr ⟨fun z hz => ?_, h⟩
      rcases List.mem_cons.mp hz with rfl | hz
      · exact hk
      · exact String.lt_trans hk (hy z hz)
    · split
      · exact h
      · rename_i hk hne
        refine List.pairwise_cons.mpr ⟨fun z hz => ?_, ih hys⟩
        rcases mem_insertKey.mp hz with rfl | hz
        · exact lt_of_not_lt_of_ne hk hne
        · exact hy z hz

def insert (k : String) (s : KeySet) : KeySet := ⟨insertKey k s.toList, sorted_insertKey k s.sorted⟩

def ofList (ks : List String) : KeySet := ks.foldl (fun s k => s.insert k) empty

def contains (s : KeySet) (k : String) : Bool := s.toList.contains k

def size (s : KeySet) : Nat := s.toList.length

def isEmpty (s : KeySet) : Bool := s.toList.isEmpty

def filter (p : String → Bool) (s : KeySet) : KeySet := ⟨s.toList.filter p, s.sorted.filter p⟩

def union (s t : KeySet) : KeySet := t.toList.foldl (fun s k => s.insert k) s

instance : Membership String KeySet := ⟨fun s k => k ∈ s.toList⟩

instance (k : String) (s : KeySet) : Decidable (k ∈ s) := inferInstanceAs (Decidable (k ∈ s.toList))

theorem mem_def {k : String} {s : KeySet} : k ∈ s ↔ k ∈ s.toList := Iff.rfl

@[simp] theorem mem_toList {k : String} {s : KeySet} : k ∈ s.toList ↔ k ∈ s := Iff.rfl

@[simp] theorem not_mem_empty {k : String} : ¬ k ∈ empty := List.not_mem_nil

@[simp] theorem contains_iff {k : String} {s : KeySet} : s.contains k = true ↔ k ∈ s := by
  simp [contains]

@[simp] theorem mem_insert {k x : String} {s : KeySet} : x ∈ s.insert k ↔ x = k ∨ x ∈ s := mem_insertKey

@[simp] theorem mem_filter {k : String} {p : String → Bool} {s : KeySet} :
    k ∈ s.filter p ↔ k ∈ s ∧ p k = true := List.mem_filter

theorem mem_foldl_insert {k : String} {ks : List String} {s : KeySet} :
    k ∈ ks.foldl (fun s k => s.insert k) s ↔ k ∈ ks ∨ k ∈ s := by
  induction ks generalizing s with
  | nil => simp
  | cons x xs ih => simp only [List.foldl_cons, ih, mem_insert, List.mem_cons]; grind

@[simp] theorem mem_ofList {k : String} {ks : List String} : k ∈ ofList ks ↔ k ∈ ks := by
  simp [ofList, mem_foldl_insert]

@[simp] theorem mem_union {k : String} {s t : KeySet} : k ∈ s.union t ↔ k ∈ s ∨ k ∈ t := by
  simp only [union, mem_foldl_insert, mem_toList]; grind

theorem nodup_toList (s : KeySet) : s.toList.Nodup :=
  s.sorted.imp fun {a b} (h : a < b) (e : a = b) => String.lt_irrefl b (e ▸ h)

theorem ext_mem {s t : KeySet} (h : ∀ k, k ∈ s ↔ k ∈ t) : s = t := by
  have hp : s.toList.Perm t.toList := (List.perm_ext_iff_of_nodup s.nodup_toList t.nodup_toList).mpr h
  refine KeySet.ext (hp.eq_of_pairwise (fun a b _ _ hab hba => ?_) s.sorted t.sorted)
  exact absurd (String.lt_trans hab hba) (String.lt_irrefl a)

theorem insert_of_mem {k : String} {s : KeySet} (h : k ∈ s) : s.insert k = s := by
  refine ext_mem fun x => ?_
  simp only [mem_insert, or_iff_right_iff_imp]
  intro e
  subst e
  exact h

theorem isEmpty_iff {s : KeySet} : s.isEmpty = true ↔ ∀ k, k ∉ s := by
  unfold isEmpty
  rw [List.isEmpty_iff, List.eq_nil_iff_forall_not_mem]
  rfl

theorem isEmpty_eq_false {s : KeySet} : s.isEmpty = false ↔ ∃ k, k ∈ s := by
  rw [← Bool.not_eq_true, isEmpty_iff]
  exact Classical.not_forall_not

theorem isEmpty_iff_eq {s : KeySet} : s.isEmpty = true ↔ s = .empty := by
  rw [isEmpty_iff]
  constructor
  · intro h
    exact ext_mem fun k => iff_of_false (h k) not_mem_empty
  · intro h k
    rw [h]
    exact not_mem_empty

end KeySet

end Interlink
