import Interlink.Proofs.Text.Cut
import Interlink.Proofs.Text.LowerCase
import Interlink.Text.Slug

/-!
# Shapes of slugs

A slug is made of groups with single dashes between them, and is in lower case. The lower case of a
letter or digit is alphanumeric, with one exception, so the groups of a slug are, and a slug is its
own slug, unless the name has a dotted capital I.
-/

namespace Interlink.Text

variable {s : List Char} {p : Char → Bool} {groups : List (List Char)} {g : List Char} {c d : Char} {name : String}

/-! ## Runs -/

theorem flatten_runs (p : Char → Bool) (s : List Char) : (runs p s).flatten = s.filter p := by
  rw [runs, List.flatten_filter_ne_nil]
  induction s with
  | nil => rfl
  | cons c s ih =>
    unfold split
    by_cases h : p c = true
    · rw [if_neg (by simpa using h), List.filter_cons_of_pos h, ← ih]
      cases hs : split (!p ·) s with
      | nil => exact absurd hs (split_ne_nil _ s)
      | cons piece pieces => rfl
    · rw [if_pos (by simpa using h), List.filter_cons_of_neg h, ← ih]
      rfl

theorem of_mem_runs (h : g ∈ runs p s) : g ≠ [] ∧ ∀ c ∈ g, c ∈ s ∧ p c = true := by
  refine ⟨by simpa using (List.mem_filter.mp h).2, fun c hc => List.mem_filter.mp ?_⟩
  rw [← flatten_runs]
  exact List.mem_flatten.mpr ⟨g, h, hc⟩

theorem exists_mem_runs (hc : c ∈ s) (h : p c = true) : ∃ g ∈ runs p s, c ∈ g := by
  rw [← List.mem_flatten, flatten_runs]
  exact List.mem_filter.mpr ⟨hc, h⟩

/-! ## Groups with dashes between them -/

theorem intercalate_cons (g : List Char) (groups : List (List Char)) :
    ['-'].intercalate (g :: groups) = g ++ groups.flatMap ('-' :: ·) := by
  induction groups generalizing g with
  | nil => rw [List.intercalate_singleton, List.flatMap_nil, List.append_nil]
  | cons g' rest ih =>
    rw [List.intercalate_cons_cons, ih, List.flatMap_cons, List.append_assoc]
    rfl

theorem not_dash_at_ends (h : ∀ g ∈ groups, g ≠ [] ∧ '-' ∉ g) :
    (['-'].intercalate groups).head? ≠ some '-' ∧ (['-'].intercalate groups).getLast? ≠ some '-' := by
  induction groups with
  | nil => exact ⟨nofun, nofun⟩
  | cons g rest ih =>
    obtain ⟨⟨some_g, own⟩, later⟩ := List.forall_mem_cons.mp h
    cases rest with
    | nil =>
      rw [List.intercalate_singleton]
      exact ⟨fun first => own (List.mem_of_head? first), fun last => own (List.mem_of_getLast? last)⟩
    | cons g' rest =>
      have some_rest : ['-'].intercalate (g' :: rest) ≠ [] := by
        rw [intercalate_cons]
        exact List.append_ne_nil_of_left_ne_nil (later g' List.mem_cons_self).1 _
      rw [List.intercalate_cons_cons, List.getLast?_append_of_ne_nil _ some_rest, List.append_assoc,
        List.head?_append_of_ne_nil _ some_g]
      exact ⟨fun first => own (List.mem_of_head? first), (ih later).2⟩

theorem mem_intercalate (h : c ≠ '-') : c ∈ ['-'].intercalate groups ↔ ∃ g ∈ groups, c ∈ g := by
  cases groups with
  | nil => simp
  | cons g rest => simp [intercalate_cons, h]

theorem runs_intercalate (h : ∀ g ∈ groups, g ≠ [] ∧ ∀ c ∈ g, p c = true) (dash : p '-' = false) :
    runs p (['-'].intercalate groups) = groups := by
  have whole {g : List Char} (h : ∀ c ∈ g, p c = true) : split (!p ·) g = [g] := by
    rw [split_eq_splitOnP]
    exact List.splitOnP_eq_singleton fun c hc => by simp [h c hc]
  unfold runs
  induction groups with
  | nil => rfl
  | cons g rest ih =>
    obtain ⟨⟨some_g, own⟩, later⟩ := List.forall_mem_cons.mp h
    cases rest with
    | nil => rw [List.intercalate_singleton, whole own, List.filter_cons_of_pos (by simpa using some_g),
      List.filter_nil]
    | cons g' rest =>
      rw [List.intercalate_cons_cons, List.append_assoc, List.singleton_append, split_append_cons (by simp [dash]),
        whole own, List.singleton_append, List.filter_cons_of_pos (by simpa using some_g), ih later]

/-! ## One pass over the name -/

def slugGroups (s : List Char) : List (List Char) := (runs isAlphanumeric s).map (·.flatMap lowerChar)

def dashed (texts : List (List Char)) : List Char := ['-'].intercalate (texts.filter (· ≠ []))

def lowerPieces (s : List Char) : List (List Char) := (split (!isAlphanumeric ·) s).map (·.flatMap lowerChar)

theorem dashed_cons_nil_cons (t : List Char) (texts : List (List Char)) :
    dashed (t :: [] :: texts) = dashed (t :: texts) := by
  unfold dashed
  by_cases h : t = [] <;> simp [h]

theorem dashed_cons_cons {t : List Char} (ht : t ≠ []) (hg : g ≠ []) (texts : List (List Char)) :
    dashed (t :: g :: texts) = dashed ((t ++ ['-'] ++ g) :: texts) := by
  unfold dashed
  rw [List.filter_cons_of_pos (by simpa using ht), List.filter_cons_of_pos (by simpa using hg),
    List.filter_cons_of_pos (by simp), intercalate_cons, intercalate_cons, List.flatMap_cons]
  simp

theorem lowerPieces_of_isAlphanumeric (h : isAlphanumeric c = true) : ∃ piece pieces,
    lowerPieces s = piece :: pieces ∧ lowerPieces (c :: s) = (lowerChar c ++ piece) :: pieces := by
  unfold lowerPieces
  rw [split, if_neg (by simpa using h)]
  cases hs : split (!isAlphanumeric ·) s with
  | nil => exact absurd hs (split_ne_nil _ s)
  | cons piece pieces => exact ⟨_, _, rfl, rfl⟩

theorem lowerPieces_of_not (h : isAlphanumeric c = false) : lowerPieces (c :: s) = [] :: lowerPieces s := by
  unfold lowerPieces
  rw [split, if_pos (by simp [h])]
  rfl

/-- What was made before counts as one text, whose own dashes stay: the first piece goes on with it,
or a pending dash parts the two. -/
theorem slugFrom_eq (made s : List Char) :
    slugFrom made false s = dashed ((lowerPieces s).modifyHead (made ++ ·)) ∧
    slugFrom made true s = dashed (made :: lowerPieces s) := by
  induction s generalizing made with
  | nil => by_cases h : made = [] <;> simp [slugFrom, dashed, lowerPieces, split, h]
  | cons c s ih =>
    by_cases h : isAlphanumeric c = true
    · obtain ⟨piece, pieces, here, next⟩ := lowerPieces_of_isAlphanumeric (s := s) h
      rw [here] at ih
      have group : lowerChar c ++ piece ≠ [] := List.append_ne_nil_of_left_ne_nil (lowerChar_ne_nil c) _
      rw [slugFrom, if_pos h, slugFrom, if_pos h, (ih _).1, (ih _).1, next]
      constructor
      · simp
      · by_cases start : made = []
        · subst start
          rfl
        · rw [dashed_cons_cons start group]
          simp [start]
    · rw [Bool.not_eq_true] at h
      rw [lowerPieces_of_not h, slugFrom, if_neg (by simp [h]), slugFrom, if_neg (by simp [h]), (ih _).2,
        List.modifyHead_cons, List.append_nil, dashed_cons_nil_cons]
      exact ⟨rfl, rfl⟩

theorem slugFrom_start (s : List Char) : slugFrom [] false s = ['-'].intercalate (slugGroups s) := by
  have whole : (lowerPieces s).modifyHead ([] ++ ·) = lowerPieces s := by
    cases lowerPieces s <;> rfl
  rw [(slugFrom_eq [] s).1, whole, dashed, lowerPieces, List.filter_map, slugGroups, runs]
  refine congrArg _ (congrArg _ (List.filter_congr fun piece _ => ?_))
  cases piece with
  | nil => rfl
  | cons c rest => simp [lowerChar_ne_nil c]

theorem toList_slug (name : String) : (slug name).toList = ['-'].intercalate (slugGroups name.toList) := by
  rw [slug, String.toList_ofList, slugFrom_start]

/-! ## The shape of slugs -/

/-- Groups of alphanumeric characters, with single dashes between them. -/
def IsSlug (t : String) : Prop :=
  ∃ groups, t.toList = ['-'].intercalate groups ∧ ∀ g ∈ groups, g ≠ [] ∧ ∀ c ∈ g, isAlphanumeric c = true

theorem isAlphanumeric_dash : isAlphanumeric '-' = false := by decide +kernel

theorem isAlphanumeric_mark : isAlphanumeric '\u0307' = false := by decide +kernel

theorem isAlphanumeric_dotted : isAlphanumeric '\u0130' = true := by decide +kernel

theorem ne_dash_of_isAlphanumeric (h : isAlphanumeric c = true) : c ≠ '-' := by
  rintro rfl
  rw [isAlphanumeric_dash] at h
  cases h

theorem of_mem_slugGroups (h : g ∈ slugGroups s) : g ≠ [] ∧
    ∀ d ∈ g, lowerChar d = [d] ∧ (isAlphanumeric d = true ∨ '\u0130' ∈ s ∧ d = '\u0307') := by
  obtain ⟨run, hr, rfl⟩ := List.mem_map.mp h
  obtain ⟨some_run, own⟩ := of_mem_runs hr
  constructor
  · obtain ⟨c, rest, rfl⟩ := List.exists_cons_of_ne_nil some_run
    exact List.append_ne_nil_of_left_ne_nil (lowerChar_ne_nil c) _
  · intro d hd
    obtain ⟨c, hc, hd⟩ := List.mem_flatMap.mp hd
    refine ⟨lowerChar_of_mem_lowerChar hd, (isAlphanumeric_of_mem_lowerChar (own c hc).2 hd).imp_right ?_⟩
    rintro ⟨rfl, rfl⟩
    exact ⟨(own _ hc).1, rfl⟩

theorem exists_mem_slugGroups (hc : c ∈ s) (h : isAlphanumeric c = true) (hd : d ∈ lowerChar c) :
    ∃ g ∈ slugGroups s, d ∈ g := by
  obtain ⟨run, hr, mem⟩ := exists_mem_runs hc h
  exact ⟨_, List.mem_map_of_mem hr, List.mem_flatMap.mpr ⟨c, mem, hd⟩⟩

theorem mark_mem_slug_iff : '\u0307' ∈ (slug name).toList ↔ '\u0130' ∈ name.toList := by
  rw [toList_slug, mem_intercalate (by decide)]
  constructor
  · intro ⟨g, hg, hd⟩
    have mark := ((of_mem_slugGroups hg).2 _ hd).2
    rw [isAlphanumeric_mark] at mark
    exact (mark.resolve_left nofun).1
  · intro h
    exact exists_mem_slugGroups h isAlphanumeric_dotted (by decide)

theorem lowerChar_of_mem_slug (h : d ∈ (slug name).toList) : lowerChar d = [d] := by
  by_cases dash : d = '-'
  · subst dash
    decide
  · rw [toList_slug, mem_intercalate dash] at h
    obtain ⟨g, hg, hd⟩ := h
    exact ((of_mem_slugGroups hg).2 d hd).1

theorem not_dotted_mem_slug : '\u0130' ∉ (slug name).toList := fun h =>
  absurd (lowerChar_of_mem_slug h) (by decide)

theorem lowered_slug (name : String) : lowered (slug name) = slug name := by
  rw [lowered, lower_eq_self fun d hd => lowerChar_of_mem_slug hd, String.ofList_toList]

theorem ne_dash_of_mem_slugGroups (hg : g ∈ slugGroups s) (hd : d ∈ g) : d ≠ '-' := by
  rcases ((of_mem_slugGroups hg).2 d hd).2 with h | ⟨-, rfl⟩
  · exact ne_dash_of_isAlphanumeric h
  · decide

theorem slug_eq_empty_iff : slug name = "" ↔ ∀ c ∈ name.toList, isAlphanumeric c = false := by
  rw [← String.toList_inj, toList_slug]
  constructor
  · intro empty c hc
    refine Bool.eq_false_iff.mpr fun h => ?_
    obtain ⟨d, hd⟩ := List.exists_mem_of_ne_nil _ (lowerChar_ne_nil c)
    obtain ⟨g, hg, mem⟩ := exists_mem_slugGroups hc h hd
    have inside := (mem_intercalate (ne_dash_of_mem_slugGroups hg mem)).mpr ⟨g, hg, mem⟩
    rw [empty] at inside
    cases inside
  · intro none
    have no_runs : runs isAlphanumeric name.toList = [] := by
      refine List.eq_nil_iff_forall_not_mem.mpr fun run hr => ?_
      obtain ⟨some_run, own⟩ := of_mem_runs hr
      obtain ⟨c, hc⟩ := List.exists_mem_of_ne_nil _ some_run
      exact absurd (own c hc).2 (by simp [none c (own c hc).1])
    rw [slugGroups, no_runs]
    rfl

theorem isSlug_slug (h : '\u0130' ∉ name.toList) : IsSlug (slug name) := by
  refine ⟨_, toList_slug name, fun g hg => ?_⟩
  obtain ⟨some_g, own⟩ := of_mem_slugGroups hg
  exact ⟨some_g, fun d hd => (own d hd).2.resolve_right fun mark => h mark.1⟩

theorem isSlug_slug_iff : IsSlug (slug name) ↔ '\u0130' ∉ name.toList := by
  refine ⟨fun ⟨groups, e, own⟩ => ?_, isSlug_slug⟩
  rw [← mark_mem_slug_iff, e, mem_intercalate (by decide)]
  intro ⟨g, hg, hd⟩
  have mark := (own g hg).2 _ hd
  rw [isAlphanumeric_mark] at mark
  cases mark

/-- What is in lower case and a slug already is its own slug. -/
theorem slug_eq_self {t : String} (h : IsSlug t) (lower : ∀ c ∈ t.toList, lowerChar c = [c]) : slug t = t := by
  obtain ⟨groups, e, own⟩ := h
  have still : groups.map (·.flatMap lowerChar) = groups := by
    refine (List.map_congr_left fun g hg => ?_).trans (List.map_id groups)
    refine (List.flatMap_congr fun c hc => lower c ?_).trans (List.flatMap_singleton' g)
    rw [e, mem_intercalate (ne_dash_of_isAlphanumeric ((own g hg).2 c hc))]
    exact ⟨g, hg, hc⟩
  rw [← String.toList_inj, toList_slug, slugGroups, e, runs_intercalate own isAlphanumeric_dash, still]

theorem slug_slug_iff : slug (slug name) = slug name ↔ '\u0130' ∉ name.toList := by
  constructor
  · intro same h
    have again := mark_mem_slug_iff.mpr h
    rw [← same, mark_mem_slug_iff] at again
    exact not_dotted_mem_slug again
  · intro h
    exact slug_eq_self (isSlug_slug h) fun c hc => lowerChar_of_mem_slug hc

/-- A slug is made of groups with single dashes between them, none at its ends, and in lower case,
and empty just in case the name has nothing alphanumeric. Just in case the name has no dotted capital
I, whose lower case leaves a mark, the groups are alphanumeric and the slug is its own slug. -/
theorem slug_shape (name : String) :
    (∃ groups, (slug name).toList = ['-'].intercalate groups ∧
      ∀ g ∈ groups, g ≠ [] ∧ ∀ c ∈ g, isAlphanumeric c = true ∨ c = '\u0307') ∧
    ((slug name).toList.head? ≠ some '-' ∧ (slug name).toList.getLast? ≠ some '-') ∧
    lowered (slug name) = slug name ∧
    (slug name = "" ↔ ∀ c ∈ name.toList, isAlphanumeric c = false) ∧
    (IsSlug (slug name) ↔ '\u0130' ∉ name.toList) ∧
    (slug (slug name) = slug name ↔ '\u0130' ∉ name.toList) := by
  refine ⟨⟨_, toList_slug name, fun g hg => ?_⟩, ?_, lowered_slug name, slug_eq_empty_iff, isSlug_slug_iff,
    slug_slug_iff⟩
  · obtain ⟨some_g, own⟩ := of_mem_slugGroups hg
    exact ⟨some_g, fun c hc => (own c hc).2.imp_right And.right⟩
  · rw [toList_slug]
    exact not_dash_at_ends fun g hg =>
      ⟨(of_mem_slugGroups hg).1, fun dash => ne_dash_of_mem_slugGroups hg dash rfl⟩

/-- The lower case of the dotted capital I is a small i and a mark, and the mark does not outlast
another pass. -/
theorem not_isSlug_dotted : slug "\u0130" = "i\u0307" ∧ ¬ IsSlug (slug "\u0130") ∧
    slug (slug "\u0130") ≠ slug "\u0130" := by
  have dotted : '\u0130' ∈ "\u0130".toList := by decide
  refine ⟨by decide +kernel, fun h => isSlug_slug_iff.mp h dotted, fun h => slug_slug_iff.mp h dotted⟩

end Interlink.Text
