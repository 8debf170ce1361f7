import Interlink.Glossary.Markup
import Interlink.Proofs.Text.LowerCase

/-!
# Keys of attributes

An attribute is a list item with a key, in whatever case. What counts as a letter of a key is what
has the letter as its lower case, and the long s. So the lower case of a key as written is the key,
unless it is written with a long s: then its lower case is no key.
-/

namespace Interlink.Glossary

open Text

variable {k c : Char} {ks s written rest value line : List Char} {key : String} {a : Attribute}

def IsKeyword (key written : List Char) : Prop := List.Forall₂ (fun k c => matchesLetter k c = true) key written

structure IsItem (line : List Char) (key : String) (written value : List Char) : Prop where
  known : key ∈ attributeKeys
  keyword : IsKeyword key.toList written
  parts : ∃ indent mark gap between rest, line = indent ++ mark :: (gap ++ (written ++ (between ++ ':' :: rest))) ∧
    (∀ c ∈ indent, isBlank c = true) ∧ (mark = '-' ∨ mark = '*') ∧ (gap ≠ [] ∧ ∀ c ∈ gap, isBlank c = true) ∧
    (∀ c ∈ between, isBlank c = true) ∧ value = trim rest

/-! ## Letters -/

theorem matchesLetter_iff (h : k.isLower = true) :
    matchesLetter k c = true ↔ lowerChar c = [k] ∨ k = 's' ∧ c = '\u017F' := by
  rw [lowerChar_eq_iff h, matchesLetter]
  simp only [Bool.or_eq_true, Bool.and_eq_true, decide_eq_true_eq]
  tauto

theorem lowerChar_longS_ne (h : k.isLower = true) : lowerChar '\u017F' ≠ [k] :=
  lowerChar_ne_of_lt h (by decide) (by decide)

theorem lowerChar_eq_iff_matchesLetter (h : k.isLower = true) :
    lowerChar c = [k] ↔ matchesLetter k c = true ∧ c ≠ '\u017F' := by
  rw [matchesLetter_iff h]
  constructor
  · intro lower
    refine ⟨.inl lower, ?_⟩
    rintro rfl
    exact lowerChar_longS_ne h lower
  · rintro ⟨lower | ⟨-, long⟩, ne⟩
    · exact lower
    · exact absurd long ne

theorem matchesLetter_inj {k' : Char} (h : k.isLower = true) (h' : k'.isLower = true)
    (hc : matchesLetter k c = true) (hc' : matchesLetter k' c = true) : k = k' := by
  rcases (matchesLetter_iff h).mp hc with lower | ⟨rfl, rfl⟩
  · rcases (matchesLetter_iff h').mp hc' with lower' | ⟨-, rfl⟩
    · exact List.singleton_inj.mp (lower.symm.trans lower')
    · exact absurd lower (lowerChar_longS_ne h)
  · rcases (matchesLetter_iff h').mp hc' with lower' | ⟨rfl, -⟩
    · exact absurd lower' (lowerChar_longS_ne h')
    · rfl

theorem not_blank_of_matchesLetter (h : k.isLower = true) (hc : matchesLetter k c = true) :
    isBlank c = false ∧ c ≠ ':' := by
  rcases (matchesLetter_iff h).mp hc with lower | ⟨-, rfl⟩
  · constructor
    · by_contra blank
      rw [Bool.not_eq_false] at blank
      obtain rfl := List.singleton_inj.mp ((lowerChar_of_isBlank blank).symm.trans lower)
      have := toNat_of_isBlank blank
      have := isLower_iff.mp h
      omega
    · rintro rfl
      obtain rfl := List.singleton_inj.mp (show [':'] = [k] from lower)
      exact absurd h (by decide)
  · decide

/-- The two notions of case agree on a keyword but for the long s. -/
theorem lower_eq_iff_isKeyword (hk : ∀ k ∈ ks, k.isLower = true) :
    lower written = ks ↔ IsKeyword ks written ∧ '\u017F' ∉ written := by
  rw [lower_eq_iff hk, IsKeyword]
  induction ks generalizing written with
  | nil =>
    rw [List.forall₂_nil_left_iff, List.forall₂_nil_left_iff]
    exact ⟨fun h => ⟨h, h ▸ List.not_mem_nil⟩, And.left⟩
  | cons k ks ih =>
    obtain ⟨here, later⟩ := List.forall_mem_cons.mp hk
    cases written with
    | nil => simp
    | cons c written =>
      rw [List.forall₂_cons, List.forall₂_cons, ih later, lowerChar_eq_iff_matchesLetter here, List.mem_cons]
      tauto

/-! ## Keys -/

theorem isLower_of_mem_attributeKeys : ∀ key ∈ attributeKeys, ∀ k ∈ key.toList, k.isLower = true := by
  simp [attributeKeys]

theorem ne_nil_of_mem_attributeKeys : ∀ key ∈ attributeKeys, key.toList ≠ [] := by simp [attributeKeys]

theorem keywordAt?_eq_some_iff :
    keywordAt? ks s = some (written, rest) ↔ s = written ++ rest ∧ IsKeyword ks written := by
  unfold IsKeyword
  induction ks generalizing s written with
  | nil =>
    rw [keywordAt?, List.forall₂_nil_left_iff, Option.some.injEq, Prod.mk.injEq]
    constructor
    · rintro ⟨rfl, rfl⟩
      exact ⟨rfl, rfl⟩
    · rintro ⟨rfl, rfl⟩
      exact ⟨rfl, rfl⟩
  | cons k ks ih =>
    cases s with
    | nil =>
      rw [keywordAt?]
      refine iff_of_false nofun ?_
      rintro ⟨e, h⟩
      rw [(List.append_eq_nil_iff.mp e.symm).1] at h
      cases h
    | cons c s =>
      rw [keywordAt?]
      constructor
      · intro h
        split at h
        · rename_i letter
          obtain ⟨⟨w, r⟩, found, e⟩ := Option.map_eq_some_iff.mp h
          obtain ⟨rfl, rfl⟩ := Prod.mk.inj e
          obtain ⟨rfl, more⟩ := ih.mp found
          exact ⟨rfl, .cons letter more⟩
        · cases h
      · rintro ⟨e, h⟩
        obtain ⟨d, w, letter, more, rfl⟩ := List.forall₂_cons_left_iff.mp h
        obtain ⟨rfl, rfl⟩ := List.cons.inj e
        rw [if_pos letter, ih.mpr ⟨List.append_eq, more⟩]
        rfl

/-! ## List items -/

theorem dropWhile_blanks {blanks : List Char} (h : ∀ c ∈ blanks, isBlank c = true) (hc : isBlank c = false) :
    (blanks ++ c :: s).dropWhile isBlank = c :: s := by
  rw [List.dropWhile_append_of_pos h, List.dropWhile_cons_of_neg (by simp [hc])]

theorem attributeWith?_eq_some_iff : attributeWith? key s = some a ↔
    ∃ written between rest, s = written ++ (between ++ ':' :: rest) ∧ IsKeyword key.toList written ∧
      (∀ c ∈ between, isBlank c = true) ∧ a = ⟨String.ofList (lower written), trim rest⟩ := by
  rw [attributeWith?]
  constructor
  · intro h
    split at h
    · rename_i written rest found
      obtain ⟨rfl, hw⟩ := keywordAt?_eq_some_iff.mp found
      split at h
      · rename_i value colon
        refine ⟨written, rest.takeWhile isBlank, value, ?_, hw, fun c hc => List.mem_takeWhile_imp hc,
          (Option.some.inj h).symm⟩
        rw [← colon, List.takeWhile_append_dropWhile]
      · cases h
    · cases h
  · rintro ⟨written, between, rest, rfl, hw, blank, rfl⟩
    rw [keywordAt?_eq_some_iff.mpr ⟨rfl, hw⟩]
    dsimp only
    rw [dropWhile_blanks blank (by decide)]
    rfl

theorem takeWhile_keyword {between : List Char} (hk : ∀ k ∈ ks, k.isLower = true) (hw : IsKeyword ks written)
    (blank : ∀ c ∈ between, isBlank c = true) :
    (written ++ (between ++ ':' :: rest)).takeWhile (fun c => !isBlank c && c ≠ ':') = written := by
  have stop : (between ++ ':' :: rest).takeWhile (fun c => !isBlank c && c ≠ ':') = [] := by
    cases between with
    | nil => rfl
    | cons b between => exact List.takeWhile_cons_of_neg (by simp [blank b List.mem_cons_self])
  induction hw with
  | nil => exact stop
  | cons letter _ ih =>
    obtain ⟨here, later⟩ := List.forall_mem_cons.mp hk
    obtain ⟨noBlank, noColon⟩ := not_blank_of_matchesLetter here letter
    rw [List.cons_append, List.takeWhile_cons_of_pos (by simp [noBlank, noColon]), ih later]

theorem IsKeyword.unique {ks' : List Char} (hk : ∀ k ∈ ks, k.isLower = true) (hk' : ∀ k ∈ ks', k.isLower = true)
    (h : IsKeyword ks written) (h' : IsKeyword ks' written) : ks = ks' := by
  induction h generalizing ks' with
  | nil => exact (List.forall₂_nil_right_iff.mp h').symm
  | cons letter _ ih =>
    obtain ⟨k', ks', letter', more', rfl⟩ := List.forall₂_cons_right_iff.mp h'
    obtain ⟨here, later⟩ := List.forall_mem_cons.mp hk
    obtain ⟨here', later'⟩ := List.forall_mem_cons.mp hk'
    rw [matchesLetter_inj here here' letter letter', ih later later' more']

/-- A text begins with one key at most. -/
theorem key_unique {key' : String} {a' : Attribute} (hk : key ∈ attributeKeys) (hk' : key' ∈ attributeKeys)
    (h : attributeWith? key s = some a) (h' : attributeWith? key' s = some a') : key = key' := by
  obtain ⟨written, between, rest, rfl, hw, blank, -⟩ := attributeWith?_eq_some_iff.mp h
  obtain ⟨written', between', rest', e', hw', blank', -⟩ := attributeWith?_eq_some_iff.mp h'
  have small := isLower_of_mem_attributeKeys key hk
  have small' := isLower_of_mem_attributeKeys key' hk'
  have same : written = written' := by
    rw [← takeWhile_keyword small hw blank, e', takeWhile_keyword small' hw' blank']
  subst same
  exact String.toList_inj.mp (IsKeyword.unique small small' hw hw')

theorem findSome?_attributeWith?_iff : attributeKeys.findSome? (attributeWith? · s) = some a ↔
    ∃ key ∈ attributeKeys, attributeWith? key s = some a := by
  constructor
  · exact List.exists_of_findSome?_eq_some
  · rintro ⟨key, hk, h⟩
    have some_key : (attributeKeys.findSome? (attributeWith? · s)).isSome :=
      List.findSome?_isSome_iff.mpr ⟨key, hk, by rw [h]; rfl⟩
    obtain ⟨a', found⟩ := Option.isSome_iff_exists.mp some_key
    obtain ⟨key', hk', h'⟩ := List.exists_of_findSome?_eq_some found
    rw [found, ← h', ← key_unique hk hk' h h', h]

theorem exists_cons_of_isKeyword (hk : key ∈ attributeKeys) (hw : IsKeyword key.toList written) :
    ∃ c more, written = c :: more ∧ isBlank c = false := by
  obtain ⟨k, ks, e⟩ := List.exists_cons_of_ne_nil (ne_nil_of_mem_attributeKeys key hk)
  rw [e] at hw
  obtain ⟨c, more, letter, -, rfl⟩ := List.forall₂_cons_left_iff.mp hw
  have small := isLower_of_mem_attributeKeys key hk k (e ▸ List.mem_cons_self)
  exact ⟨c, more, rfl, (not_blank_of_matchesLetter small letter).1⟩

/-- The attributes are the list items with a key. What is handed on is the lower case of the key as written. -/
theorem attribute?_eq_some_iff : attribute? line = some a ↔
    ∃ key written, IsItem line key written a.value ∧ a.key = String.ofList (lower written) := by
  rw [attribute?]
  constructor
  · intro h
    split at h
    · rename_i mark rest start
      split at h
      · rename_i item
        obtain ⟨key, hk, found⟩ := findSome?_attributeWith?_iff.mp h
        obtain ⟨written, between, value, e, hw, blank, rfl⟩ := attributeWith?_eq_some_iff.mp found
        refine ⟨key, written, ⟨hk, hw, line.takeWhile isBlank, mark, rest.takeWhile isBlank, between, value, ?_,
          fun c hc => List.mem_takeWhile_imp hc, item.1, ⟨?_, fun c hc => List.mem_takeWhile_imp hc⟩,
          blank, rfl⟩, rfl⟩
        · rw [← e, List.takeWhile_append_dropWhile, ← start, List.takeWhile_append_dropWhile]
        · cases rest with
          | nil => cases item.2
          | cons b more =>
            have first : isBlank b = true := item.2
            rw [List.takeWhile_cons_of_pos first]
            nofun
      · cases h
    · cases h
  · rintro ⟨key, written, ⟨hk, hw, indent, mark, gap, between, rest, rfl, hi, hm, ⟨some_gap, hg⟩, blank, value⟩, e⟩
    have noBlank : isBlank mark = false := by rcases hm with rfl | rfl <;> decide
    have blankNext : (gap ++ (written ++ (between ++ ':' :: rest))).head?.any isBlank = true := by
      obtain ⟨b, more, rfl⟩ := List.exists_cons_of_ne_nil some_gap
      exact hg b List.mem_cons_self
    have key_next : (gap ++ (written ++ (between ++ ':' :: rest))).dropWhile isBlank =
        written ++ (between ++ ':' :: rest) := by
      obtain ⟨c, more, rfl, first⟩ := exists_cons_of_isKeyword hk hw
      exact dropWhile_blanks hg first
    rw [dropWhile_blanks hi noBlank]
    dsimp only
    rw [if_pos ⟨hm, blankNext⟩, key_next, findSome?_attributeWith?_iff]
    refine ⟨key, hk, attributeWith?_eq_some_iff.mpr ⟨written, between, rest, rfl, hw, blank, ?_⟩⟩
    rw [← e, ← value]

theorem IsItem.attribute?_eq (h : IsItem line key written value) :
    attribute? line = some ⟨String.ofList (lower written), value⟩ :=
  attribute?_eq_some_iff.mpr ⟨key, written, h, rfl⟩

theorem attribute?_eq_none_iff :
    attribute? line = none ↔ ∀ key written value, ¬ IsItem line key written value := by
  rw [Option.eq_none_iff_forall_ne_some]
  constructor
  · intro absent key written value item
    exact absent _ item.attribute?_eq
  · intro absent a found
    obtain ⟨key, written, item, -⟩ := attribute?_eq_some_iff.mp found
    exact absent key written a.value item

theorem IsItem.lower_eq (h : IsItem line key written value) (plain : '\u017F' ∉ written) :
    lower written = key.toList :=
  (lower_eq_iff_isKeyword (isLower_of_mem_attributeKeys key h.known)).mpr ⟨h.keyword, plain⟩

theorem IsItem.lower_mem_iff (h : IsItem line key written value) :
    String.ofList (lower written) ∈ attributeKeys ↔ '\u017F' ∉ written := by
  constructor
  · intro known
    exact ((lower_eq_iff_isKeyword (isLower_of_mem_attributeKeys _ known)).mp String.toList_ofList.symm).2
  · intro plain
    rw [h.lower_eq plain, String.ofList_toList]
    exact h.known

end Interlink.Glossary
