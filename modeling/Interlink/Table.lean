import Interlink.KeySet

/-!
# Tables

A finite map from texts, kept as its entries in increasing order of their keys. Two tables with the same
entries are equal.
-/

namespace Interlink

variable {α β : Type}

@[ext]
structure Table (α : Type) where
  toList : List (String × α)
  sorted : toList.Pairwise (fun a b => a.1 < b.1) := by simp

namespace Table

def empty : Table α := { toList := [] }

instance : Inhabited (Table α) := ⟨empty⟩

instance [DecidableEq α] : DecidableEq (Table α) := fun a b =>
  decidable_of_iff (a.toList = b.toList) Table.ext_iff.symm

def insertEntry (k : String) (v : α) : List (String × α) → List (String × α)
  | [] => [(k, v)]
  | e :: es => if k < e.1 then (k, v) :: e :: es else if k = e.1 then (k, v) :: es else e :: insertEntry k v es

theorem mem_insertEntry_imp {k : String} {v : α} {es : List (String × α)} {x : String × α}
    (h : x ∈ insertEntry k v es) : x = (k, v) ∨ x ∈ es := by
  induction es with
  | nil => simpa [insertEntry] using h
  | cons e es ih =>
    simp only [insertEntry] at h
    split at h
    · simpa using h
    · split at h
      · rcases List.mem_cons.mp h with h | h
        · exact .inl h
        · exact .inr (List.mem_cons_of_mem _ h)
      · rcases List.mem_cons.mp h with h | h
        · exact .inr (h ▸ List.mem_cons_self)
        · rcases ih h with h | h
          · exact .inl h
          · exact .inr (List.mem_cons_of_mem _ h)

theorem sorted_insertEntry (k : String) (v : α) {es : List (String × α)}
    (h : es.Pairwise (fun a b => a.1 < b.1)) : (insertEntry k v es).Pairwise (fun a b => a.1 < b.1) := by
  induction es with
  | nil => simp [insertEntry]
  | cons e es ih =>
    obtain ⟨he, hes⟩ := List.pairwise_cons.mp h
    simp only [insertEntry]
    split
    · rename_i hk
      refine List.pairwise_cons.mpr ⟨fun x hx => ?_, h⟩
      rcases List.mem_cons.mp hx with rfl | hx
      · exact hk
      · exact String.lt_trans hk (he x hx)
    · split
      · rename_i hk
        exact List.pairwise_cons.mpr ⟨fun x hx => hk ▸ he x hx, hes⟩
      · rename_i hk hne
        refine List.pairwise_cons.mpr ⟨fun x hx => ?_, ih hes⟩
        rcases mem_insertEntry_imp hx with rfl | hx
        · exact lt_of_not_lt_of_ne hk hne
        · exact he x hx

def insert (k : String) (v : α) (t : Table α) : Table α :=
  ⟨insertEntry k v t.toList, sorted_insertEntry k v t.sorted⟩

/-- The table of the entries; of two with one key the later one counts. -/
def ofList (es : List (String × α)) : Table α := es.foldl (fun t e => t.insert e.1 e.2) empty

def find? (t : Table α) (k : String) : Option α := (t.toList.find? fun e => e.1 = k).map (·.2)

def contains (t : Table α) (k : String) : Bool := t.toList.any fun e => e.1 = k

def upsert (k : String) (d : α) (f : α → α) (t : Table α) : Table α := t.insert k (f ((t.find? k).getD d))

def modify (k : String) (f : α → α) (t : Table α) : Table α :=
  match t.find? k with
  | some v => t.insert k (f v)
  | none => t

def keys (t : Table α) : List String := t.toList.map (·.1)

def values (t : Table α) : List α := t.toList.map (·.2)

def size (t : Table α) : Nat := t.toList.length

def total (f : α → Nat) (t : Table α) : Nat := t.values.foldl (fun n v => n + f v) 0

theorem sorted_keys (t : Table α) : t.keys.Pairwise (· < ·) := List.pairwise_map.mpr t.sorted

def keySet (t : Table α) : KeySet := ⟨t.keys, t.sorted_keys⟩

theorem nodup_keys (t : Table α) : t.keys.Nodup := t.keySet.nodup_toList

def mapValues (f : String → α → β) (t : Table α) : Table β where
  toList := t.toList.map fun e => (e.1, f e.1 e.2)
  sorted := List.pairwise_map.mpr t.sorted

def filter (p : String → α → Bool) (t : Table α) : Table α where
  toList := t.toList.filter fun e => p e.1 e.2
  sorted := t.sorted.filter _

def erase (k : String) (t : Table α) : Table α := t.filter fun j _ => j ≠ k

/-! ## What tables hold -/

theorem contains_iff {k : String} {t : Table α} : t.contains k = true ↔ ∃ v, (k, v) ∈ t.toList := by
  simp [contains]

theorem mem_insertEntry {k : String} {v : α} {es : List (String × α)} {x : String × α}
    (h : es.Pairwise (fun a b => a.1 < b.1)) :
    x ∈ insertEntry k v es ↔ x = (k, v) ∨ (x ∈ es ∧ x.1 ≠ k) := by
  induction es with
  | nil => simp [insertEntry]
  | cons e es ih =>
    obtain ⟨he, hes⟩ := List.pairwise_cons.mp h
    have after {y : String × α} (hy : y ∈ es) (hle : k = e.1 ∨ k < e.1) : y.1 ≠ k := by
      intro e
      subst e
      have hlt := he y hy
      rcases hle with hle | hle
      · exact String.lt_irrefl _ (hle ▸ hlt)
      · exact String.lt_irrefl _ (String.lt_trans hle hlt)
    simp only [insertEntry]
    split
    · rename_i hk
      have hne : e.1 ≠ k := fun h => String.lt_irrefl _ (h ▸ hk)
      simp only [List.mem_cons]
      constructor
      · intro hy
        rcases hy with rfl | rfl | hx
        · exact .inl rfl
        · exact .inr ⟨.inl rfl, hne⟩
        · exact .inr ⟨.inr hx, after hx (.inr hk)⟩
      · intro hy
        rcases hy with rfl | ⟨rfl | hx, _⟩
        · exact .inl rfl
        · exact .inr (.inl rfl)
        · exact .inr (.inr hx)
    · split
      · rename_i hk
        simp only [List.mem_cons]
        constructor
        · intro hy
          rcases hy with rfl | hx
          · exact .inl rfl
          · exact .inr ⟨.inr hx, after hx (.inl hk)⟩
        · intro hy
          rcases hy with rfl | ⟨rfl | hx, hne⟩
          · exact .inl rfl
          · exact absurd hk.symm hne
          · exact .inr hx
      · rename_i hne
        simp only [List.mem_cons, ih hes]
        constructor
        · intro hy
          rcases hy with rfl | rfl | ⟨hx, hk⟩
          · exact .inr ⟨.inl rfl, fun h => hne h.symm⟩
          · exact .inl rfl
          · exact .inr ⟨.inr hx, hk⟩
        · intro hy
          rcases hy with rfl | ⟨rfl | hx, hk⟩
          · exact .inr (.inl rfl)
          · exact .inl rfl
          · exact .inr (.inr ⟨hx, hk⟩)

theorem mem_insert {k : String} {v : α} {t : Table α} {x : String × α} :
    x ∈ (t.insert k v).toList ↔ x = (k, v) ∨ (x ∈ t.toList ∧ x.1 ≠ k) := mem_insertEntry t.sorted

@[simp] theorem contains_insert {j k : String} {v : α} {t : Table α} :
    (t.insert k v).contains j = true ↔ j = k ∨ t.contains j = true := by
  simp only [contains_iff, mem_insert, Prod.mk.injEq]
  grind

theorem find?_eq_some {k : String} {v : α} {t : Table α} : t.find? k = some v ↔ (k, v) ∈ t.toList := by
  have unique {w : α} (hv : (k, v) ∈ t.toList) (hw : (k, w) ∈ t.toList) : v = w := by
    refine Classical.byContradiction fun hne => ?_
    rcases List.mem_iff_getElem.mp hv with ⟨i, hi, ei⟩
    rcases List.mem_iff_getElem.mp hw with ⟨j, hj, ej⟩
    have hp := List.pairwise_iff_getElem.mp t.sorted
    rcases Nat.lt_trichotomy i j with h | h | h
    · have := hp i j hi hj h; rw [ei, ej] at this; exact String.lt_irrefl _ this
    · subst h; rw [ei] at ej; exact hne (Prod.mk.inj ej).2
    · have := hp j i hj hi h; rw [ei, ej] at this; exact String.lt_irrefl _ this
  constructor
  · intro h
    obtain ⟨e, he, rfl⟩ := Option.map_eq_some_iff.mp h
    have hk : e.1 = k := by simpa using List.find?_some he
    exact hk ▸ List.mem_of_find?_eq_some he
  · intro h
    rcases hf : t.toList.find? (fun e => e.1 = k) with _ | e
    · exact absurd (List.find?_eq_none.mp hf _ h) (by simp)
    · have hk : e.1 = k := by simpa using List.find?_some hf
      have hm := List.mem_of_find?_eq_some hf
      have : v = e.2 := unique h (hk ▸ hm)
      simp [find?, hf, this]

theorem contains_of_find? {k : String} {v : α} {t : Table α} (h : t.find? k = some v) : t.contains k = true :=
  contains_iff.mpr ⟨v, find?_eq_some.mp h⟩

theorem contains_eq_isSome {k : String} {t : Table α} : t.contains k = (t.find? k).isSome := by
  rw [Bool.eq_iff_iff, Option.isSome_iff_exists, contains_iff]
  simp only [find?_eq_some]

@[simp] theorem find?_empty {k : String} : (empty : Table α).find? k = none := rfl

theorem find?_insert {j k : String} {v : α} {t : Table α} :
    (t.insert k v).find? j = if j = k then some v else t.find? j := by
  refine Option.ext fun w => ?_
  rw [find?_eq_some, mem_insert]
  split
  · rename_i h
    simp [h, eq_comm]
  · rename_i h
    simp [h, find?_eq_some]

theorem find?_erase {j k : String} {t : Table α} : (t.erase k).find? j = if j = k then none else t.find? j := by
  refine Option.ext fun w => ?_
  rw [find?_eq_some]
  simp only [erase, filter, List.mem_filter, decide_eq_true_eq]
  by_cases h : j = k
  · simp [h]
  · simp [h, find?_eq_some]

theorem find?_upsert {j k : String} {d : α} {f : α → α} {t : Table α} :
    (t.upsert k d f).find? j = if j = k then some (f ((t.find? k).getD d)) else t.find? j := find?_insert

theorem find?_modify {j k : String} {f : α → α} {t : Table α} :
    (t.modify k f).find? j = if j = k then (t.find? k).map f else t.find? j := by
  unfold modify
  cases h : t.find? k with
  | some v => simp only [find?_insert, Option.map_some]
  | none => simp only [Option.map_none]; split <;> simp_all

theorem mem_upsert_insert {j k x y : String} {t : Table KeySet} :
    x ∈ ((t.upsert k .empty (·.insert y)).find? j).getD .empty ↔
      x ∈ (t.find? j).getD .empty ∨ (j = k ∧ x = y) := by
  rw [find?_upsert]
  split
  · rename_i h
    subst h
    simp [or_comm]
  · rename_i h
    simp [h]

@[simp] theorem find?_mapValues {k : String} {f : String → α → β} {t : Table α} :
    (t.mapValues f).find? k = (t.find? k).map (f k) := by
  refine Option.ext fun w => ?_
  simp only [find?_eq_some, Option.map_eq_some_iff, mapValues, List.mem_map, Prod.mk.injEq, Prod.exists]
  constructor
  · intro hx
    obtain ⟨_, v, hm, rfl, rfl⟩ := hx
    exact ⟨v, hm, rfl⟩
  · intro hx
    obtain ⟨v, hm, rfl⟩ := hx
    exact ⟨k, v, hm, rfl, rfl⟩

theorem ext_find? {t u : Table α} (h : ∀ k, t.find? k = u.find? k) : t = u := by
  have nodup (t : Table α) : t.toList.Nodup :=
    t.sorted.imp fun {a b} (hlt : a.1 < b.1) (e : a = b) => String.lt_irrefl b.1 (e ▸ hlt)
  have hp : t.toList.Perm u.toList := by
    refine (List.perm_ext_iff_of_nodup (nodup t) (nodup u)).mpr fun e => ?_
    rw [← find?_eq_some, ← find?_eq_some, h]
  refine Table.ext (hp.eq_of_pairwise (fun a b _ _ hab hba => ?_) t.sorted u.sorted)
  exact absurd (String.lt_trans hab hba) (String.lt_irrefl a.1)

theorem insert_eq_self {k : String} {v : α} {t : Table α} (h : t.find? k = some v) : t.insert k v = t := by
  refine ext_find? fun j => ?_
  rw [find?_insert]
  split
  · rename_i hj
    rw [hj, h]
  · rfl

theorem upsert_eq_self {k : String} {d v : α} {f : α → α} {t : Table α} (h : t.find? k = some v) (hf : f v = v) :
    t.upsert k d f = t := by
  unfold upsert
  rw [h, Option.getD_some, hf]
  exact insert_eq_self h

theorem mem_keys {k : String} {t : Table α} : k ∈ t.keys ↔ t.contains k = true := by
  simp [keys, contains_iff]

@[simp] theorem contains_mapValues {k : String} {f : String → α → β} {t : Table α} :
    (t.mapValues f).contains k = t.contains k := by
  simp [contains, mapValues, List.any_map, Function.comp_def]

@[simp] theorem mem_keySet {k : String} {t : Table α} : k ∈ t.keySet ↔ t.contains k = true := by
  rw [contains_iff, KeySet.mem_def]
  simp [keySet, keys]

end Table

end Interlink
