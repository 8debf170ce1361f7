import Interlink.Proofs.Glossary.Document

/-!
# Names in double brackets

A reference is a label in double brackets, which may go on after a bar with the text that is shown.
The scan of a text finds just these: brackets do not nest, so no reference can hide another one.
-/

namespace Interlink.Glossary

open Text

variable {s name : List Char} {c : Char}

/-! ## Labels -/

theorem bracketName?_eq_some_iff : bracketName? s = some name ↔
    (name ≠ [] ∧ trim s = name) ∨ (trim s = [] ∧ ∃ b, s.getLast? = some b ∧ name = [b]) := by
  unfold bracketName?
  split
  · rename_i ht
    rw [Option.map_eq_some_iff]
    constructor
    · rintro ⟨b, hb, rfl⟩
      exact .inr ⟨ht, b, hb, rfl⟩
    · rintro (⟨ne, e⟩ | ⟨_, b, hb, rfl⟩)
      · exact absurd (e.symm.trans ht) ne
      · exact ⟨b, hb, rfl⟩
  · rename_i hne
    rw [Option.some.injEq]
    constructor
    · rintro rfl
      exact .inl ⟨fun e => hne e, rfl⟩
    · rintro (⟨_, e⟩ | ⟨ht, _⟩)
      · exact e
      · exact absurd ht fun e => hne e

/-- A label is its name with blanks around it. -/
theorem exists_blanks_of_bracketName? (h : bracketName? s = some name) :
    ∃ left right, s = left ++ (name ++ right) ∧
    (∀ c ∈ left, isBlank c = true) ∧ ∀ c ∈ right, isBlank c = true := by
  rcases bracketName?_eq_some_iff.mp h with ⟨_, rfl⟩ | ⟨ht, b, hb, rfl⟩
  · exact exists_blanks_around s
  · obtain ⟨left, rfl⟩ := List.getLast?_eq_some_iff.mp hb
    exact ⟨left, [], rfl, fun c hc => blank_of_trim_eq_nil ht c (List.mem_append_left _ hc), nofun⟩

theorem mem_of_mem_bracketName? (h : bracketName? s = some name) (hc : c ∈ name) : c ∈ s := by
  obtain ⟨left, right, rfl, _⟩ := exists_blanks_of_bracketName? h
  exact List.mem_append_right _ (List.mem_append_left _ hc)

theorem isSome_bracketName?_iff : (bracketName? s).isSome ↔ s ≠ [] := by
  constructor
  · rintro h rfl
    cases h
  · intro hne
    rw [Option.isSome_iff_exists]
    by_cases ht : trim s = []
    · exact ⟨_, bracketName?_eq_some_iff.mpr (.inr ⟨ht, _, List.getLast?_eq_some_getLast hne, rfl⟩)⟩
    · exact ⟨_, bracketName?_eq_some_iff.mpr (.inl ⟨ht, rfl⟩)⟩

/-! ## One reference -/

def Closes (s : List Char) : Prop :=
  ∃ shown after, s = shown ++ ']' :: ']' :: after ∧ (∀ c ∈ shown, c ≠ '[' ∧ c ≠ ']') ∧
    (shown = [] ∨ ∃ more, shown = '|' :: more)

def IsReference (s name : List Char) : Prop :=
  ∃ label rest, s = '[' :: '[' :: (label ++ rest) ∧ (∀ c ∈ label, c ≠ '[' ∧ c ≠ ']' ∧ c ≠ '|') ∧ Closes rest ∧
    bracketName? label = some name

theorem referenceAt?_eq_some_iff {length : Nat} : referenceAt? s = some (name, length) ↔
    ∃ inner after, s = '[' :: '[' :: (inner ++ ']' :: ']' :: after) ∧ (∀ c ∈ inner, c ≠ '[' ∧ c ≠ ']') ∧
      bracketName? (inner.takeWhile (· ≠ '|')) = some name ∧ length = inner.length + 4 := by
  constructor
  · intro h
    unfold referenceAt? at h
    split at h
    · rename_i rest
      dsimp only at h
      split at h
      · rename_i after closing
        obtain ⟨_, hn, e⟩ := Option.map_eq_some_iff.mp h
        obtain ⟨rfl, rfl⟩ := Prod.mk.inj e
        refine ⟨_, after, ?_, fun c hc => ?_, hn, rfl⟩
        · rw [← closing]
          exact congrArg ('[' :: '[' :: ·) (List.prefix_iff_eq_append.mp (List.takeWhile_prefix _)).symm
        · simpa using List.mem_takeWhile_imp hc
      · cases h
    · cases h
  · rintro ⟨inner, after, rfl, plain, hn, rfl⟩
    have inside : (inner ++ ']' :: ']' :: after).takeWhile (fun c => c ≠ '[' && c ≠ ']') = inner := by
      rw [List.takeWhile_append_of_pos fun c hc => by simpa using plain c hc]
      simp
    rw [referenceAt?, inside, List.drop_left]
    simp only [hn, Option.map_some]

/-- The label of what stands in brackets ends at the first bar. -/
theorem takeWhile_label {label shown : List Char} (plain : ∀ c ∈ label, c ≠ '|')
    (bar : shown = [] ∨ ∃ more, shown = '|' :: more) : (label ++ shown).takeWhile (· ≠ '|') = label := by
  rw [List.takeWhile_append_of_pos fun c hc => decide_eq_true (plain c hc)]
  rcases bar with rfl | ⟨more, rfl⟩ <;> simp

theorem exists_shown (inner : List Char) :
    ∃ shown, inner = inner.takeWhile (· ≠ '|') ++ shown ∧ (shown = [] ∨ ∃ more, shown = '|' :: more) := by
  refine ⟨inner.dropWhile (· ≠ '|'), List.takeWhile_append_dropWhile.symm, ?_⟩
  cases h : inner.dropWhile (· ≠ '|') with
  | nil => exact .inl rfl
  | cons c more =>
    have stop := List.head?_dropWhile_not (· ≠ '|') inner
    rw [h] at stop
    obtain rfl : c = '|' := by simpa using stop
    exact .inr ⟨more, rfl⟩

theorem exists_referenceAt?_iff : (∃ length, referenceAt? s = some (name, length)) ↔ IsReference s name := by
  simp only [referenceAt?_eq_some_iff]
  constructor
  · rintro ⟨_, inner, after, rfl, plain, hn, rfl⟩
    obtain ⟨shown, e, bar⟩ := exists_shown inner
    refine ⟨inner.takeWhile (· ≠ '|'), shown ++ ']' :: ']' :: after, ?_, fun c hc => ?_,
      ⟨shown, after, rfl, fun c hc => ?_, bar⟩, hn⟩
    · rw [← List.append_assoc, ← e]
    · obtain ⟨h1, h2⟩ := plain c (List.takeWhile_subset _ hc)
      exact ⟨h1, h2, by simpa using List.mem_takeWhile_imp hc⟩
    · exact plain c (e ▸ List.mem_append_right _ hc)
  · rintro ⟨label, _, rfl, plain, ⟨shown, after, rfl, plain', bar⟩, hn⟩
    refine ⟨_, label ++ shown, after, by rw [List.append_assoc], fun c hc => ?_, ?_, rfl⟩
    · rcases List.mem_append.mp hc with hc | hc
      · exact ⟨(plain c hc).1, (plain c hc).2.1⟩
      · exact plain' c hc
    · rw [takeWhile_label (fun c hc => (plain c hc).2.2) bar]
      exact hn

/-! ## All references -/

theorem referencesFrom_eq (skip : Nat) (s : List Char) : referencesFrom skip s = references (s.drop skip) := by
  induction s generalizing skip with
  | nil => cases skip <;> simp [references, referencesFrom]
  | cons c rest ih =>
    cases skip with
    | zero => rfl
    | succ skip =>
      rw [referencesFrom, ih, List.drop_succ_cons]

theorem references_of_none (h : referenceAt? (c :: s) = none) : references (c :: s) = references s := by
  rw [references, referencesFrom, h]
  rfl

theorem references_of_some {length : Nat} (h : referenceAt? s = some (name, length)) :
    references s = name :: references (s.drop length) := by
  obtain ⟨inner, after, e, _, _, rfl⟩ := referenceAt?_eq_some_iff.mp h
  cases s with
  | nil => cases e
  | cons c rest =>
    rw [references, referencesFrom, h]
    dsimp only
    rw [referencesFrom_eq]
    rfl

theorem drop_reference {inner after : List Char} :
    ('[' :: '[' :: (inner ++ ']' :: ']' :: after)).drop (inner.length + 4) = after := by
  have whole :
      '[' :: '[' :: (inner ++ ']' :: ']' :: after) = ('[' :: '[' :: (inner ++ [']', ']'])) ++ after := by simp
  rw [whole]
  exact List.drop_left' (by simp)

/-- A reference that begins after a text does not overlap one at the start of the text. -/
theorem exists_between {inner before after rest : List Char} (plain : ∀ c ∈ inner, c ≠ '[' ∧ c ≠ ']')
    (some_before : before ≠ []) (later : IsReference after name)
    (e : '[' :: '[' :: (inner ++ ']' :: ']' :: rest) = before ++ after) :
    ∃ between, before = '[' :: '[' :: (inner ++ ']' :: ']' :: between) ∧ rest = between ++ after := by
  obtain ⟨label, more, rfl, _⟩ := later
  have unopened : '[' ∉ inner ++ [']', ']'] := by
    rw [List.mem_append]
    rintro (h | h)
    · exact (plain _ h).1 rfl
    · simp at h
  have e' : ('[' :: '[' :: (inner ++ [']', ']'])) ++ rest = before ++ '[' :: '[' :: (label ++ more) := by
    rw [← e]
    simp
  rcases List.append_eq_append_iff.mp e' with ⟨between, rfl, hrest⟩ | ⟨overlap, hw, hafter⟩
  · exact ⟨between, by simp, hrest⟩
  · obtain ⟨x, before, rfl⟩ := List.exists_cons_of_ne_nil some_before
    cases overlap with
    | nil => exact ⟨[], by simpa using hw.symm, by simpa using hafter.symm⟩
    | cons b overlap =>
      -- An opening bracket would stand inside the first reference, or its second one would begin
      -- the later reference.
      obtain ⟨rfl, tail⟩ : '[' = b ∧ '[' :: (label ++ more) = overlap ++ rest := List.cons.inj hafter
      cases before with
      | nil =>
        obtain ⟨_, rfl⟩ : '[' = '[' ∧ inner ++ [']', ']'] = overlap := List.cons.inj (List.cons.inj hw).2
        cases inner with
        | nil => simp at tail
        | cons c inner =>
          obtain ⟨rfl, _⟩ : '[' = c ∧ _ := List.cons.inj tail
          exact absurd List.mem_cons_self unopened
      | cons y before =>
        obtain ⟨_, inside⟩ : '[' = y ∧ inner ++ [']', ']'] = before ++ '[' :: overlap :=
          List.cons.inj (List.cons.inj hw).2
        rw [inside] at unopened
        exact absurd (List.mem_append_right _ List.mem_cons_self) unopened

/-- What the scan finds stands at columns one after the other. -/
theorem exists_columns (s : List Char) : ∃ found : List (List Char × Nat), found.map (·.1) = references s ∧
    found.Pairwise (·.2 < ·.2) ∧ ∀ x ∈ found, IsReference (s.drop x.2) x.1 := by
  match s with
  | [] => exact ⟨[], rfl, .nil, nofun⟩
  | c :: rest =>
    cases hr : referenceAt? (c :: rest) with
    | none =>
      obtain ⟨found, names, order, all⟩ := exists_columns rest
      refine ⟨found.map fun x => (x.1, x.2 + 1), ?_, ?_, List.forall_mem_map.mpr all⟩
      · rw [references_of_none hr, ← names, List.map_map]
        rfl
      · exact List.pairwise_map.mpr (order.imp fun h => Nat.succ_lt_succ h)
    | some p =>
      obtain ⟨first, length⟩ := p
      have wide : 4 ≤ length := by
        obtain ⟨inner, _, _, _, _, rfl⟩ := referenceAt?_eq_some_iff.mp hr
        exact Nat.le_add_left 4 _
      obtain ⟨found, names, order, all⟩ := exists_columns ((c :: rest).drop length)
      refine ⟨(first, 0) :: found.map fun x => (x.1, length + x.2), ?_, List.pairwise_cons.mpr ⟨?_, ?_⟩, ?_⟩
      · rw [references_of_some hr, ← names, List.map_cons, List.map_map]
        rfl
      · refine List.forall_mem_map.mpr fun x _ => ?_
        dsimp only
        omega
      · exact List.pairwise_map.mpr (order.imp fun h => Nat.add_lt_add_left h length)
      · refine List.forall_mem_cons.mpr ⟨exists_referenceAt?_iff.mp ⟨length, hr⟩,
          List.forall_mem_map.mpr fun x hx => ?_⟩
        rw [← List.drop_drop]
        exact all x hx
termination_by s.length
decreasing_by
  · exact Nat.lt_succ_self _
  · rw [List.length_drop, List.length_cons]
    omega

theorem exists_of_mem_references (s : List Char) (h : name ∈ references s) :
    ∃ before after, s = before ++ after ∧ IsReference after name := by
  obtain ⟨found, names, _, all⟩ := exists_columns s
  obtain ⟨x, hx, rfl⟩ := List.mem_map.mp (names ▸ h)
  exact ⟨s.take x.2, s.drop x.2, (List.take_append_drop _ _).symm, all x hx⟩

theorem mem_references_append {after : List Char} (h : IsReference after name) (before : List Char) :
    name ∈ references (before ++ after) := by
  match before with
  | [] =>
    obtain ⟨length, found⟩ := exists_referenceAt?_iff.mpr h
    rw [List.nil_append, references_of_some found]
    exact List.mem_cons_self
  | c :: before =>
    cases hr : referenceAt? (c :: (before ++ after)) with
    | none =>
      rw [List.cons_append, references_of_none hr]
      exact mem_references_append h before
    | some p =>
      obtain ⟨first, length⟩ := p
      obtain ⟨inner, rest, e, plain, _, rfl⟩ := referenceAt?_eq_some_iff.mp hr
      obtain ⟨between, hb, rfl⟩ := exists_between plain (List.cons_ne_nil c before) h e.symm
      rw [List.cons_append, references_of_some hr, e, drop_reference]
      exact List.mem_cons_of_mem _ (mem_references_append h between)
termination_by before.length
decreasing_by
  · exact Nat.lt_succ_self _
  · rw [hb]
    simp
    omega

/-- The scan finds just what is written in double brackets. -/
theorem mem_references_iff :
    name ∈ references s ↔ ∃ before after, s = before ++ after ∧ IsReference after name := by
  constructor
  · exact exists_of_mem_references s
  · rintro ⟨before, after, rfl, h⟩
    exact mem_references_append h before

end Interlink.Glossary
