import Interlink.Text.Cut
import Mathlib

/-!
# Cut texts

A text is the pieces that it is cut into with the separators between them, and pieces without
separators that are put together are cut into the same pieces again. What comes before or behind a
part of a text is told by the whole.
-/

namespace Interlink.Text

variable {s l : List Char} {ls : List (List Char)} {sep : Char → Bool} {c : Char}

/-! ## Pieces between separators -/

theorem split_eq_splitOnP (sep : Char → Bool) (s : List Char) : split sep s = s.splitOnP sep := by
  induction s with
  | nil => rfl
  | cons c rest ih =>
    rw [split, List.splitOnP_cons_eq_if_modifyHead, ih]
    cases h : List.splitOnP sep rest with
    | nil => exact absurd h (List.splitOnP_ne_nil sep rest)
    | cons piece pieces => rfl

theorem split_eq_splitOn (c : Char) (s : List Char) : split (· = c) s = s.splitOn c := by
  have e : (fun x => decide (x = c)) = (· == c) := by
    funext x
    exact Bool.eq_iff_iff.mpr (by simp)
  rw [e, split_eq_splitOnP, ← List.splitOn_eq_splitOnP]

theorem split_intercalate (h : ∀ l ∈ ls, c ∉ l) (hne : ls ≠ []) : split (· = c) ([c].intercalate ls) = ls := by
  rw [split_eq_splitOn]
  exact List.splitOn_intercalate c h hne

theorem not_mem_of_mem_split (hc : sep c = true) {piece : List Char} (h : piece ∈ split sep s) : c ∉ piece := by
  induction s generalizing piece with
  | nil =>
    obtain rfl := List.mem_singleton.mp h
    exact List.not_mem_nil
  | cons x rest ih =>
    unfold Text.split at h
    split at h
    · rcases List.mem_cons.mp h with rfl | h
      · exact List.not_mem_nil
      · exact ih h
    · rename_i hx
      have start {p : List Char} (hp : c ∉ p) : c ∉ x :: p := by
        intro hm
        rcases List.mem_cons.mp hm with rfl | hm
        · exact hx hc
        · exact hp hm
      cases hs : Text.split sep rest with
      | nil =>
        rw [hs] at h
        obtain rfl := List.mem_singleton.mp h
        exact start List.not_mem_nil
      | cons p ps =>
        rw [hs] at h ih
        rcases List.mem_cons.mp h with rfl | h
        · exact start (ih List.mem_cons_self)
        · exact ih (List.mem_cons_of_mem _ h)

theorem split_append_cons (hc : sep c = true) (s t : List Char) :
    split sep (s ++ c :: t) = split sep s ++ split sep t := by
  rw [split_eq_splitOnP, split_eq_splitOnP, split_eq_splitOnP]
  exact List.splitOnP_append_cons s t hc

theorem split_ne_nil (sep : Char → Bool) (s : List Char) : split sep s ≠ [] := by
  rw [split_eq_splitOnP]
  exact List.splitOnP_ne_nil sep s

theorem intercalate_split (c : Char) (s : List Char) : [c].intercalate (split (· = c) s) = s := by
  rw [split_eq_splitOn]
  exact List.intercalate_splitOn c

section
variable {t before after piece : String} {ps : List String}

theorem pieces_append (before after : String) :
    pieces c (before ++ String.singleton c ++ after) = pieces c before ++ pieces c after := by
  rw [pieces, String.toList_append, String.toList_append, String.toList_singleton, List.append_assoc,
    List.singleton_append, split_append_cons (decide_eq_true rfl), List.map_append]
  rfl

theorem not_mem_of_mem_pieces (h : piece ∈ pieces c t) : c ∉ piece.toList := by
  obtain ⟨l, hl, rfl⟩ := List.mem_map.mp h
  rw [String.toList_ofList]
  exact not_mem_of_mem_split (decide_eq_true rfl) hl

theorem pieces_join (h : ∀ p ∈ ps, c ∉ p.toList) (hne : ps ≠ []) :
    pieces c (join (String.singleton c) ps) = ps := by
  have cut : split (· = c) ([c].intercalate (ps.map String.toList)) = ps.map String.toList :=
    split_intercalate (by simpa using h) (by simpa using hne)
  rw [pieces, join, String.toList_intercalate, String.toList_singleton, cut, List.map_map]
  exact (List.map_congr_left fun p _ => String.ofList_toList).trans (List.map_id ps)

theorem join_pieces (c : Char) (t : String) : join (String.singleton c) (pieces c t) = t := by
  have whole : (pieces c t).map String.toList = split (· = c) t.toList := by
    rw [pieces, List.map_map]
    exact (List.map_congr_left fun p _ => String.toList_ofList).trans (List.map_id _)
  rw [← String.toList_inj, join, String.toList_intercalate, String.toList_singleton, whole, intercalate_split]

/-! ## Beginnings and ends -/

theorem rdropWhile_append_of_pos {p : Char → Bool} {after : List Char} (h : ∀ c ∈ after, p c = true)
    (s : List Char) :
    (s ++ after).rdropWhile p = s.rdropWhile p := by
  unfold List.rdropWhile
  rw [List.reverse_append, List.dropWhile_append_of_pos fun c hc => h c (List.mem_reverse.mp hc)]

theorem startsWith_iff : startsWith t before = true ↔ ∃ after, t = before ++ after := by
  rw [startsWith, List.isPrefixOf_iff_prefix]
  constructor
  · rintro ⟨after, h⟩
    refine ⟨String.ofList after, String.toList_inj.mp ?_⟩
    rw [String.toList_append, String.toList_ofList, h]
  · rintro ⟨after, rfl⟩
    exact ⟨after.toList, String.toList_append.symm⟩

theorem withoutStart?_eq_some_iff : withoutStart? t before = some after ↔ t = before ++ after := by
  rw [withoutStart?]
  split
  · rename_i h
    obtain ⟨rest, rfl⟩ := startsWith_iff.mp h
    rw [String.toList_append, List.drop_left, String.ofList_toList, Option.some_inj, String.append_right_inj]
  · rename_i h
    refine iff_of_false nofun fun e => h (startsWith_iff.mpr ⟨after, e⟩)

theorem withoutEnd?_eq_some_iff : withoutEnd? t after = some before ↔ t = before ++ after := by
  rw [withoutEnd?, endsWith]
  split
  · rename_i h
    obtain ⟨rest, e⟩ := List.isSuffixOf_iff_suffix.mp h
    have whole : t = String.ofList rest ++ after := by
      rw [← String.toList_inj, String.toList_append, String.toList_ofList, e]
    rw [whole, String.toList_append, List.length_append, Nat.add_sub_cancel, List.take_left, String.ofList_toList,
      Option.some_inj, String.append_left_inj]
  · rename_i h
    refine iff_of_false nofun fun e => h (List.isSuffixOf_iff_suffix.mpr ?_)
    rw [e, String.toList_append]
    exact List.suffix_append _ _

theorem holds_iff {part s : List Char} : holds part s = true ↔ part <:+: s := by
  induction s with
  | nil => rw [holds, List.isEmpty_iff, List.infix_nil]
  | cons c s ih => rw [holds, Bool.or_eq_true, List.isPrefixOf_iff_prefix, ih, List.infix_cons_iff]

theorem includes_iff {s part : String} : includes s part = true ↔ part.toList <:+: s.toList := holds_iff

theorem cutLast?_of_not_mem (h : c ∉ t.toList) : cutLast? c t = none := by
  have all : ∀ x ∈ t.toList.reverse, decide (x ≠ c) = true :=
    fun x hx => decide_eq_true fun e => h (e ▸ List.mem_reverse.mp hx)
  rw [cutLast?, List.span_eq_takeWhile_dropWhile, List.dropWhile_eq_nil_iff.mpr all]

theorem cutLast?_append (h : c ∉ after.toList) :
    cutLast? c (before ++ String.singleton c ++ after) = some (before, after) := by
  have all : ∀ x ∈ after.toList.reverse, decide (x ≠ c) = true :=
    fun x hx => decide_eq_true fun e => h (e ▸ List.mem_reverse.mp hx)
  rw [cutLast?, String.toList_append, String.toList_append, String.toList_singleton, List.reverse_append,
    List.reverse_append, List.reverse_singleton, List.singleton_append, List.span_eq_takeWhile_dropWhile,
    List.takeWhile_append_of_pos all, List.dropWhile_append_of_pos all, List.takeWhile_cons_of_neg (by simp),
    List.dropWhile_cons_of_neg (by simp)]
  simp only [List.append_nil, List.reverse_reverse, String.ofList_toList]

theorem cutLast?_eq_some_iff :
    cutLast? c t = some (before, after) ↔ t = before ++ String.singleton c ++ after ∧ c ∉ after.toList := by
  constructor
  · intro h
    by_cases hc : c ∈ t.toList
    · obtain ⟨last, rest, e, fresh⟩ := List.eq_append_cons_of_mem (List.mem_reverse.mpr hc)
      have e' : t = String.ofList rest.reverse ++ String.singleton c ++ String.ofList last.reverse := by
        rw [← String.toList_inj, ← List.reverse_inj, e]
        simp
      have fresh' : c ∉ (String.ofList last.reverse).toList := by simpa using fresh
      rw [e', cutLast?_append fresh'] at h
      obtain ⟨rfl, rfl⟩ := Prod.mk.inj (Option.some_inj.mp h)
      exact ⟨e', fresh'⟩
    · rw [cutLast?_of_not_mem hc] at h
      cases h
  · intro h
    rw [h.1, cutLast?_append h.2]

end

end Interlink.Text
