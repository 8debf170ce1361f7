import Interlink.FrontMatter
import Interlink.Glossary.Document
import Interlink.Proofs.Text.Lines

/-!
# Two readers of front matter

The block that describes a feature and the lines that the search for terms passes over are found by two readers.
They see the same lines in a document just in case its marks are plain, with only spaces and tabs after them,
and stand around at least one line.
-/

namespace Interlink

open Text Glossary

namespace FrontMatter

variable {marks : List String} {l : List Char} {ls : List (List Char)}

/-! ## Marks -/

def IsPlain (marks : List String) (l : List Char) : Prop :=
  ∃ m ∈ marks, ∃ gap : List Char, l = m.toList ++ gap ∧ ∀ c ∈ gap, c = ' ' ∨ c = '\t'

theorem isMark_true (marks : List String) (l : List Char) :
    isMark marks true l = isMark marks false (stripReturn l) := by
  simp [isMark, stripReturn]

theorem isMark_iff (h : ∀ m ∈ marks, m.toList.rdropWhile (fun c => c = ' ' || c = '\t') = m.toList) :
    isMark marks false l = true ↔ IsPlain marks l := by
  have e : isMark marks false l = marks.contains (String.ofList (l.rdropWhile fun c => c = ' ' || c = '\t')) := rfl
  rw [e, List.contains_iff_mem]
  constructor
  · intro hm
    refine ⟨_, hm, l.rtakeWhile fun c => c = ' ' || c = '\t', ?_, fun c hc => ?_⟩
    · rw [String.toList_ofList, List.rdropWhile_append_rtakeWhile]
    · simpa using List.mem_rtakeWhile_imp hc
  · rintro ⟨m, hm, gap, rfl, blank⟩
    rw [rdropWhile_append_of_pos fun c hc => by simpa using blank c hc, h m hm, String.ofList_toList]
    exact hm

theorem trimEnd_of_isPlain (h : ∀ m ∈ marks, trimEnd m.toList = m.toList) (hl : IsPlain marks l) :
    ∃ m ∈ marks, trimEnd l = m.toList := by
  obtain ⟨m, hm, gap, rfl, blank⟩ := hl
  have hg : ∀ c ∈ gap, isBlank c = true := by
    intro c hc
    rcases blank c hc with rfl | rfl <;> decide
  refine ⟨m, hm, ?_⟩
  exact (rdropWhile_append_of_pos hg m.toList).trans (h m hm)

theorem opensFrontMatter_of_isPlain (h : IsPlain ["---"] l) : opensFrontMatter l = true := by
  obtain ⟨m, hm, e⟩ := trimEnd_of_isPlain (by decide) h
  obtain rfl := List.mem_singleton.mp hm
  exact decide_eq_true e

theorem closesFrontMatter_of_isPlain (h : IsPlain ["---", "..."] l) : closesFrontMatter l = true := by
  obtain ⟨m, hm, e⟩ := trimEnd_of_isPlain (by decide) h
  rcases List.mem_pair.mp hm with rfl | rfl
  · exact Bool.or_eq_true_iff.mpr (.inl (decide_eq_true e))
  · exact Bool.or_eq_true_iff.mpr (.inr (decide_eq_true e))

/-! ## The closing line -/

def closing? (least : Nat) (opens closes : List Char → Bool) (ls : List (List Char)) : Option Nat :=
  if ls.head?.any opens then ((ls.drop least).findIdx? closes).map (· + least) else none

/-- All that matters is which lines open and close a block. -/
theorem closing?_congr (least : Nat) {ls' : List (List Char)} {opens closes : List Char → Bool}
    (sameOpening : ls'.map opens = ls.map opens) (sameClosing : ls'.map closes = ls.map closes) :
    closing? least opens closes ls' = closing? least opens closes ls := by
  have first (ls : List (List Char)) : ls.head?.any opens = (ls.map opens).head?.any id := by
    cases ls <;> rfl
  have places (ls : List (List Char)) :
      (ls.drop least).findIdx? closes = ((ls.map closes).drop least).findIdx? id := by
    rw [← List.map_drop, List.findIdx?_map]
    rfl
  rw [closing?, closing?, first, first, places, places, sameOpening, sameClosing]

theorem findIdx?_drop_eq_some_iff {least j : Nat} {closes : List Char → Bool} :
    (ls.drop least).findIdx? closes = some j ↔ (∃ l ∈ ls[least + j]?, closes l = true) ∧
      ∀ k < j, ∀ l ∈ ls[least + k]?, closes l = false := by
  simp only [List.findIdx?_eq_some_iff_getElem, ← List.getElem?_drop, Option.mem_def]
  constructor
  · intro h
    obtain ⟨hlt, hc, before⟩ := h
    refine ⟨⟨_, List.getElem?_eq_getElem hlt, hc⟩, fun k hk l hl => ?_⟩
    obtain ⟨_, rfl⟩ := List.getElem?_eq_some_iff.mp hl
    exact Bool.eq_false_iff.mpr (before k hk)
  · intro h
    obtain ⟨⟨l, hl, hc⟩, before⟩ := h
    obtain ⟨hlt, rfl⟩ := List.getElem?_eq_some_iff.mp hl
    refine ⟨hlt, hc, fun k hk => ?_⟩
    exact Bool.eq_false_iff.mp (before k hk _ (List.getElem?_eq_getElem (Nat.lt_trans hk hlt)))

theorem opens_head?_iff {opens : List Char → Bool} : ls.head?.any opens = true ↔ ∃ l ∈ ls[0]?, opens l = true := by
  cases ls <;> simp

theorem closing?_eq_some_iff {least i : Nat} {opens closes : List Char → Bool} :
    closing? least opens closes ls = some i ↔ (∃ l ∈ ls[0]?, opens l = true) ∧ least ≤ i ∧
      (∃ l ∈ ls[i]?, closes l = true) ∧ ∀ k, least ≤ k → k < i → ∀ l ∈ ls[k]?, closes l = false := by
  unfold closing?
  rw [← opens_head?_iff]
  constructor
  · intro h
    split at h
    · rename_i ho
      obtain ⟨j, hj, rfl⟩ := Option.map_eq_some_iff.mp h
      obtain ⟨hc, before⟩ := findIdx?_drop_eq_some_iff.mp hj
      rw [Nat.add_comm j least]
      refine ⟨ho, Nat.le_add_right _ _, hc, fun k hk hki => ?_⟩
      obtain ⟨d, rfl⟩ := Nat.exists_eq_add_of_le hk
      exact before d (Nat.lt_of_add_lt_add_left hki)
    · cases h
  · intro h
    obtain ⟨ho, hle, hc, before⟩ := h
    obtain ⟨j, rfl⟩ := Nat.exists_eq_add_of_le hle
    rw [if_pos ho]
    refine Option.map_eq_some_iff.mpr ⟨j, findIdx?_drop_eq_some_iff.mpr ⟨hc, fun k hk => ?_⟩, Nat.add_comm _ _⟩
    exact before (least + k) (Nat.le_add_right _ _) (Nat.add_lt_add_left hk least)

theorem isSome_closing?_iff {least : Nat} {opens closes : List Char → Bool} :
    (closing? least opens closes ls).isSome ↔
      (∃ l ∈ ls[0]?, opens l = true) ∧ ∃ i, least ≤ i ∧ ∃ l ∈ ls[i]?, closes l = true := by
  constructor
  · intro h
    obtain ⟨i, hi⟩ := Option.isSome_iff_exists.mp h
    obtain ⟨ho, hle, hc, _⟩ := closing?_eq_some_iff.mp hi
    exact ⟨ho, i, hle, hc⟩
  · intro h
    obtain ⟨ho, i, hle, l, hl, hc⟩ := h
    have any : (ls.drop least).any closes = true := by
      obtain ⟨j, rfl⟩ := Nat.exists_eq_add_of_le hle
      rw [← List.getElem?_drop] at hl
      exact List.any_eq_true.mpr ⟨l, List.mem_of_getElem? hl, hc⟩
    have head : ls.head?.any opens = true := opens_head?_iff.mpr ho
    rw [closing?, if_pos head, Option.isSome_map, List.findIdx?_isSome]
    exact any

theorem frontMatterEnd?_numbered (s : List Char) :
    frontMatterEnd? (numbered s) = closing? 1 opensFrontMatter closesFrontMatter (lines s) := by
  unfold numbered
  cases lines s with
  | nil => rfl
  | cons first rest =>
    have texts : (rest.mapIdx fun i l => (⟨i + 1 + 1, l⟩ : Line)).map Line.text = rest := by
      refine List.ext_getElem? fun i => ?_
      rw [List.getElem?_map, List.getElem?_mapIdx, Option.map_map]
      exact Option.map_id'
    have found : (rest.mapIdx fun i l => (⟨i + 1 + 1, l⟩ : Line)).findIdx? (fun l => closesFrontMatter l.text) =
        rest.findIdx? closesFrontMatter := by
      rw [← congrArg (List.findIdx? closesFrontMatter) texts, List.findIdx?_map]
      rfl
    rw [List.mapIdx_cons, frontMatterEnd?, found]
    rfl

theorem untilEnd?_eq (ps : List (List Char)) :
    (untilEnd? ps).map (List.map stripReturn) =
      ((endedLines ps).findIdx? (isMark ["---", "..."] false)).map ((endedLines ps).take ·) := by
  induction ps with
  | nil => rfl
  | cons l ls ih =>
    cases ls with
    | nil =>
      rw [untilEnd?, untilEnd?, endedLines]
      by_cases h : l = []
      · subst h
        rfl
      · rw [if_neg h, List.findIdx?_cons]
        by_cases hm : isMark ["---", "..."] false l = true
        · simp [hm]
        · simp [hm]
    | cons l' ls =>
      have hl : endedLines (l :: l' :: ls) = stripReturn l :: endedLines (l' :: ls) := rfl
      rw [untilEnd?, hl, List.findIdx?_cons, List.isEmpty_cons, Bool.not_false, isMark_true]
      by_cases hm : isMark ["---", "..."] false (stripReturn l) = true
      · rw [if_pos hm, if_pos hm]
        rfl
      · have cons : List.map stripReturn ∘ (l :: ·) = (stripReturn l :: ·) ∘ List.map stripReturn := rfl
        rw [if_neg hm, if_neg hm, Option.map_map, cons, ← Option.map_map, ih, Option.map_map, Option.map_map]
        rfl

theorem mem_of_untilEnd? {ps : List (List Char)} (h : untilEnd? ps = some ls) : ∀ l ∈ ls, l ∈ ps := by
  induction ps generalizing ls with
  | nil => cases h
  | cons p ps ih =>
    rw [untilEnd?] at h
    split at h
    · cases h
      exact fun l hl => absurd hl List.not_mem_nil
    · obtain ⟨ls', h', rfl⟩ := Option.map_eq_some_iff.mp h
      intro l hl
      rcases List.mem_cons.mp hl with rfl | hl
      · exact List.mem_cons_self
      · exact List.mem_cons_of_mem _ (ih h' l hl)

theorem block?_openLines (s : List Char) : (block? s).map openLines =
    (closing? 2 (isMark ["---"] false) (isMark ["---", "..."] false) (lines s)).map fun j =>
      ((lines s).take j).drop 1 := by
  have whole : ∀ p ∈ split (· = '\n') s, '\n' ∉ p := fun p => not_mem_of_mem_split (decide_eq_true rfl)
  rw [lines_eq_endedLines]
  unfold block?
  generalize split (· = '\n') s = ps at whole
  match ps with
  | [] => rfl
  | [l] =>
    rw [endedLines]
    by_cases h : l = [] <;> simp [h, closing?]
  | opening :: first :: rest =>
    dsimp only
    have later : (endedLines (opening :: first :: rest)).drop 2 = endedLines rest := by
      cases rest with
      | nil =>
        by_cases h : first = [] <;> simp [endedLines, h]
      | cons r rs => rfl
    have head : (endedLines (opening :: first :: rest)).head? = some (stripReturn opening) := rfl
    rw [closing?, head, later, isMark_true]
    by_cases hm : isMark ["---"] false (stripReturn opening) = true
    · rw [if_pos hm, if_pos (by simpa using hm)]
      have lines (ls : List (List Char)) (h : untilEnd? rest = some ls) :
          openLines (stripReturn (['\n'].intercalate (first :: ls))) =
            stripReturn first :: ls.map stripReturn := by
        refine openLines_stripReturn_intercalate first ls fun p hp => whole p (List.mem_cons_of_mem _ ?_)
        rcases List.mem_cons.mp hp with rfl | hp
        · exact List.mem_cons_self
        · exact List.mem_cons_of_mem _ (mem_of_untilEnd? h p hp)
      calc
        _ = (untilEnd? rest).map (fun ls => stripReturn first :: ls.map stripReturn) := by
          rw [Option.map_map]
          exact Option.map_congr lines
        _ = ((untilEnd? rest).map (List.map stripReturn)).map (stripReturn first :: ·) := by
          rw [Option.map_map]
          rfl
        _ = _ := by
          rw [untilEnd?_eq, Option.map_map, Option.map_map]
          cases rest with
          | nil => rfl
          | cons r rs => rfl
    · rw [if_neg hm, if_neg (by simpa using hm)]
      rfl

/-! ## The readers -/

/-- Both readers find a block or neither does, and the lines of the one are those that the other passes over. -/
def ReadersAgree (s : List Char) : Prop :=
  ((block? s).isSome ↔ (frontMatterEnd? (numbered s)).isSome) ∧
    ∀ b i, block? s = some b → frontMatterEnd? (numbered s) = some i → openLines b = ((lines s).take i).drop 1

theorem isMark_opening_iff : isMark ["---"] false l = true ↔ IsPlain ["---"] l := isMark_iff (by decide)

theorem isMark_closing_iff : isMark ["---", "..."] false l = true ↔ IsPlain ["---", "..."] l :=
  isMark_iff (by decide)

theorem isSome_block? (s : List Char) : (block? s).isSome =
    (closing? 2 (isMark ["---"] false) (isMark ["---", "..."] false) (lines s)).isSome := by
  have h := congrArg Option.isSome (block?_openLines s)
  rwa [Option.isSome_map, Option.isSome_map] at h

theorem isSome_frontMatterEnd? {s : List Char} (h : (block? s).isSome) :
    (frontMatterEnd? (numbered s)).isSome := by
  rw [isSome_block?] at h
  rw [frontMatterEnd?_numbered]
  obtain ⟨⟨first, hf, ho⟩, i, hle, last, hl, hc⟩ := isSome_closing?_iff.mp h
  refine isSome_closing?_iff.mpr ⟨⟨first, hf, ?_⟩, i, Nat.le_of_succ_le hle, last, hl, ?_⟩
  · exact opensFrontMatter_of_isPlain (isMark_opening_iff.mp ho)
  · exact closesFrontMatter_of_isPlain (isMark_closing_iff.mp hc)

theorem readersAgree_iff (s : List Char) : ReadersAgree s ↔
    ∀ i, frontMatterEnd? (numbered s) = some i → 2 ≤ i ∧ (∃ l ∈ (lines s)[0]?, IsPlain ["---"] l) ∧
      ∃ l ∈ (lines s)[i]?, IsPlain ["---", "..."] l := by
  have blocks := block?_openLines s
  simp only [← isMark_opening_iff, ← isMark_closing_iff]
  constructor
  · intro agree i hi
    obtain ⟨b, hb⟩ := Option.isSome_iff_exists.mp (agree.1.mpr (Option.isSome_of_eq_some hi))
    rw [hb] at blocks
    obtain ⟨j, hj, same⟩ := Option.map_eq_some_iff.mp blocks.symm
    obtain ⟨ho, hle, ⟨l, hl, hc⟩, _⟩ := closing?_eq_some_iff.mp hj
    have hij : i = j := by
      rw [frontMatterEnd?_numbered] at hi
      obtain ⟨_, hle', ⟨l', hl', _⟩, _⟩ := closing?_eq_some_iff.mp hi
      have hlen := congrArg List.length (same.trans (agree.2 b i hb (frontMatterEnd?_numbered s ▸ hi)))
      have hjlt := (List.getElem?_eq_some_iff.mp hl).1
      have hilt := (List.getElem?_eq_some_iff.mp hl').1
      simp only [List.length_drop, List.length_take] at hlen
      omega
    rw [hij]
    exact ⟨hle, ho, l, hl, hc⟩
  · intro plain
    refine ⟨⟨isSome_frontMatterEnd?, fun h => ?_⟩, fun b i hb hi => ?_⟩
    · obtain ⟨i, hi⟩ := Option.isSome_iff_exists.mp h
      obtain ⟨hle, ho, hc⟩ := plain i hi
      rw [isSome_block?]
      exact isSome_closing?_iff.mpr ⟨ho, i, hle, hc⟩
    · obtain ⟨hle, ho, hc⟩ := plain i hi
      rw [frontMatterEnd?_numbered] at hi
      obtain ⟨_, _, _, before⟩ := closing?_eq_some_iff.mp hi
      -- A plain mark before the end would be an end for both.
      have hj : closing? 2 (isMark ["---"] false) (isMark ["---", "..."] false) (lines s) = some i := by
        refine closing?_eq_some_iff.mpr ⟨ho, hle, hc, fun k hk hki l hl => ?_⟩
        refine Bool.eq_false_iff.mpr fun hm => ?_
        have wide := closesFrontMatter_of_isPlain (isMark_closing_iff.mp hm)
        exact Bool.eq_false_iff.mp (before k (Nat.le_of_succ_le hk) hki l hl) wide
      rw [hb, hj] at blocks
      exact Option.some.inj blocks

/-- An empty block ends at once for the search for terms, and at a later mark for the reader of the data. -/
theorem not_readersAgree_empty : ¬ ReadersAgree "---\n---\ntitle: X\n---\n".toList := by
  intro agree
  have hb : block? "---\n---\ntitle: X\n---\n".toList = some "---\ntitle: X".toList := by decide +kernel
  have hi : frontMatterEnd? (numbered "---\n---\ntitle: X\n---\n".toList) = some 1 := by decide +kernel
  exact absurd (agree.2 _ _ hb hi) (by decide +kernel)

end FrontMatter

end Interlink
