import Interlink.Proofs.Listing
import Interlink.Proofs.Text.Cut
import Interlink.Resolver

/-!
# What an import means

The candidates of a base path come in four groups, and the first one that is a file is what the path
means. An import means the files of the first of its bases for which its module or a module below it
means a file, each once and in the order of the modules.
-/

namespace Interlink

open Text

/-! ## The first in groups of lists -/

section
variable {α β : Type}

def IsAt (groups : List (List α)) (place : Nat × Nat) (x : α) : Prop :=
  ∃ group, groups[place.1]? = some group ∧ group[place.2]? = some x

theorem exists_isAt_of_mem {groups : List (List α)} {x : α} (h : x ∈ groups.flatten) :
    ∃ place, IsAt groups place x := by
  obtain ⟨group, hg, hx⟩ := List.mem_flatten.mp h
  obtain ⟨k, hk⟩ := List.mem_iff_getElem?.mp hg
  obtain ⟨i, hi⟩ := List.mem_iff_getElem?.mp hx
  exact ⟨(k, i), group, hk, hi⟩

theorem IsAt.mem_flatten {groups : List (List α)} {place : Nat × Nat} {x : α} (h : IsAt groups place x) :
    x ∈ groups.flatten := by
  obtain ⟨group, hg, hx⟩ := h
  exact List.mem_flatten.mpr ⟨group, List.mem_of_getElem? hg, List.mem_of_getElem? hx⟩

def Earlier : Nat × Nat → Nat × Nat → Prop := Prod.Lex (· < ·) (· < ·)

/-- No entry with the property stands before the one that is found. -/
theorem exists_isAt_of_find? {groups : List (List α)} {p : α → Bool} {x : α}
    (h : groups.flatten.find? p = some x) :
    ∃ place, IsAt groups place x ∧ ∀ place' y, IsAt groups place' y → p y = true → ¬ Earlier place' place := by
  induction groups with
  | nil => cases h
  | cons group groups ih =>
    rw [List.flatten_cons, List.find?_append] at h
    cases hg : group.find? p with
    | some y =>
      rw [hg] at h
      obtain rfl := Option.some_inj.mp h
      obtain ⟨-, i, hi, e, first⟩ := List.find?_eq_some_iff_getElem.mp hg
      refine ⟨(0, i), ⟨group, rfl, List.getElem?_eq_some_iff.mpr ⟨hi, e⟩⟩, ?_⟩
      rintro _ y ⟨_, hk, hy⟩ holds earlier
      cases earlier with
      | left _ _ lt => exact absurd lt (Nat.not_lt_zero _)
      | right _ lt =>
        obtain rfl := Option.some_inj.mp hk
        obtain ⟨hj, rfl⟩ := List.getElem?_eq_some_iff.mp hy
        exact absurd holds (by simpa using first _ lt)
    | none =>
      rw [hg, Option.none_or] at h
      obtain ⟨⟨k, i⟩, ⟨group', hk, hx⟩, first⟩ := ih h
      refine ⟨(k + 1, i), ⟨group', hk, hx⟩, ?_⟩
      rintro ⟨k', j⟩ y ⟨group'', hk', hy⟩ holds earlier
      cases k' with
      | zero =>
        obtain rfl := Option.some_inj.mp hk'
        exact List.find?_eq_none.mp hg y (List.mem_of_getElem? hy) holds
      | succ k' =>
        refine first (k', j) y ⟨group'', hk', hy⟩ holds ?_
        cases earlier with
        | left _ _ lt => exact .left _ _ (Nat.lt_of_succ_lt_succ lt)
        | right _ lt => exact .right _ lt

theorem eq_of_not_earlier {place place' : Nat × Nat} (h : ¬ Earlier place place') (h' : ¬ Earlier place' place) :
    place = place' := by
  obtain ⟨k, i⟩ := place
  obtain ⟨k', i'⟩ := place'
  rw [Earlier, Prod.lex_def] at h h'
  simp only [not_or, not_and] at h h'
  obtain rfl : k = k' := by omega
  obtain rfl : i = i' := by
    have := h.2 rfl
    have := h'.2 rfl
    omega
  rfl

theorem find?_flatten_eq_some_iff {groups : List (List α)} {p : α → Bool} {x : α} :
    groups.flatten.find? p = some x ↔
    ∃ place, IsAt groups place x ∧ p x = true ∧ ∀ place' y, IsAt groups place' y → p y = true →
      ¬ Earlier place' place := by
  constructor
  · intro h
    obtain ⟨place, at', first⟩ := exists_isAt_of_find? h
    exact ⟨place, at', List.find?_some h, first⟩
  · rintro ⟨place, at', holds, first⟩
    obtain ⟨y, hy⟩ := Option.isSome_iff_exists.mp (List.find?_isSome.mpr ⟨x, at'.mem_flatten, holds⟩)
    obtain ⟨place', at'', first'⟩ := exists_isAt_of_find? hy
    obtain rfl := eq_of_not_earlier (first' place x at' holds) (first place' y at'' (List.find?_some hy))
    obtain ⟨group, hg, hx⟩ := at'
    obtain ⟨group', hg', hy'⟩ := at''
    obtain rfl := Option.some_inj.mp (hg.symm.trans hg')
    obtain rfl := Option.some_inj.mp (hx.symm.trans hy')
    exact hy

/-- What is listed by what it stands for, once and in the order in which it comes first. -/
theorem pairwise_eraseDups_filterMap [DecidableEq β] (f : α → Option β) (xs : List α) :
    (xs.filterMap f).eraseDups.Pairwise fun a b => xs.findIdx (f · = some a) < xs.findIdx (f · = some b) := by
  induction xs generalizing f with
  | nil => simp
  | cons x xs ih =>
    cases h : f x with
    | none =>
      rw [List.filterMap_cons_none h]
      refine (ih f).imp fun {a b} lt => ?_
      rw [List.findIdx_cons, List.findIdx_cons, h]
      simpa using lt
    | some y =>
      have others (a : β) (ne : a ≠ y) : (x :: xs).findIdx (f · = some a) = xs.findIdx (f · = some a) + 1 := by
        rw [List.findIdx_cons, h]
        simp [ne.symm]
      have here : (x :: xs).findIdx (f · = some y) = 0 := by
        rw [List.findIdx_cons, h]
        simp
      rw [List.filterMap_cons_some h, List.eraseDups_cons, List.pairwise_cons]
      have differ {b : β} (hb : b ∈ ((xs.filterMap f).filter fun b => !b == y).eraseDups) : b ≠ y := by
        simpa using List.of_mem_filter (List.mem_eraseDups.mp hb)
      refine ⟨fun b hb => ?_, ?_⟩
      · rw [here, others b (differ hb)]
        exact Nat.succ_pos _
      · -- Without the first entry the others come in the same order.
        let others? (x : α) : Option β := (f x).filter fun b => !b == y
        have narrowed : (xs.filterMap f).filter (fun b => !b == y) = xs.filterMap others? := List.filter_filterMap
        have same (a : β) (ne : a ≠ y) : xs.findIdx (others? · = some a) = xs.findIdx (f · = some a) := by
          refine congrArg (xs.findIdx ·) (funext fun x => decide_eq_decide.mpr ?_)
          rw [Option.filter_eq_some_iff, and_iff_left (by simpa using ne)]
        rw [narrowed] at differ ⊢
        refine (ih others?).imp_of_mem fun {a b} ha hb lt => ?_
        rw [same a (differ ha), same b (differ hb)] at lt
        rw [others a (differ ha), others b (differ hb)]
        exact Nat.succ_lt_succ lt

end

namespace Resolver

variable {r : Resolver} {l : Language} {i : ImportFact} {importer base file : String}

/-! ## Candidates -/

/-- What a base path may mean, with the order in which it is tried: the path itself unless it is the
root, the path with an ending, the path with an ending for that of a generated file, or an index
file of the directory. -/
inductive IsCandidate (c : ResolveConfig) (base : String) : Nat × Nat → String → Prop
  | itself : base ≠ "" → IsCandidate c base (0, 0) base
  | ended {k : Nat} {ending : String} : c.extensions[k]? = some ending → IsCandidate c base (1, k) (base ++ ending)
  | replaced {k : Nat} {stem generated ending : String} : generated ∈ [".js", ".jsx", ".mjs", ".cjs"] →
    base = stem ++ generated → c.extensions[k]? = some ending → IsCandidate c base (2, k) (stem ++ ending)
  | index {k : Nat} {file : String} : c.indexFiles[k]? = some file →
    IsCandidate c base (3, k) (if base = "" then file else base ++ "/" ++ file)

def IsFirst (r : Resolver) (base file : String) : Prop :=
  ∃ place, IsCandidate r.config base place file ∧ file ∈ r.files ∧
    ∀ place' file', IsCandidate r.config base place' file' → file' ∈ r.files → ¬ Earlier place' place

def groups (c : ResolveConfig) (base : String) : List (List String) :=
  [if base.isEmpty then [] else [base], c.extensions.map (base ++ ·),
    (generatedEndings.findSome? (withoutEnd? base)).toList.flatMap fun stem => c.extensions.map (stem ++ ·),
    c.indexFiles.map (Path.below base)]

theorem candidates_eq (c : ResolveConfig) (base : String) : candidates c base = (groups c base).flatten := by
  simp [candidates, groups]

theorem eq_of_append_generated {stem stem' generated generated' : String} (h : generated ∈ generatedEndings)
    (h' : generated' ∈ generatedEndings) (e : stem ++ generated = stem' ++ generated') : stem = stem' := by
  have ends : generated.toList <:+ (stem ++ generated).toList := by
    rw [String.toList_append]
    exact List.suffix_append _ _
  have ends' : generated'.toList <:+ (stem ++ generated).toList := by
    rw [e, String.toList_append]
    exact List.suffix_append _ _
  -- None of the endings ends with another one.
  have apart : ∀ g ∈ generatedEndings, ∀ g' ∈ generatedEndings, g.toList <:+ g'.toList → g = g' := by decide
  have same : generated = generated' := by
    rcases Nat.le_total generated.toList.length generated'.toList.length with le | le
    · exact apart _ h _ h' (List.suffix_of_suffix_length_le ends ends' le)
    · exact (apart _ h' _ h (List.suffix_of_suffix_length_le ends' ends le)).symm
  rw [same] at e
  exact (String.append_left_inj _).mp e

theorem findSome?_generated_eq_some_iff {stem : String} :
    generatedEndings.findSome? (withoutEnd? base) = some stem ↔
    ∃ generated ∈ generatedEndings, base = stem ++ generated := by
  constructor
  · intro h
    obtain ⟨g, hg, e⟩ := List.exists_of_findSome?_eq_some h
    exact ⟨g, hg, withoutEnd?_eq_some_iff.mp e⟩
  · rintro ⟨g, hg, rfl⟩
    have some_stem : (generatedEndings.findSome? (withoutEnd? (stem ++ g))).isSome :=
      List.findSome?_isSome_iff.mpr ⟨g, hg, Option.isSome_of_eq_some (withoutEnd?_eq_some_iff.mpr rfl)⟩
    obtain ⟨stem', found⟩ := Option.isSome_iff_exists.mp some_stem
    obtain ⟨g', hg', e⟩ := List.exists_of_findSome?_eq_some found
    rw [found, eq_of_append_generated hg hg' (withoutEnd?_eq_some_iff.mp e)]

theorem below_eq (dir p : String) : Path.below dir p = if dir = "" then p else dir ++ "/" ++ p := by
  simp [Path.below]

theorem isAt_groups_iff {c : ResolveConfig} {place : Nat × Nat} :
    IsAt (groups c base) place file ↔ IsCandidate c base place file := by
  constructor
  · obtain ⟨k, i⟩ := place
    rintro ⟨group, hg, hx⟩
    match k, hg with
    | 0, hg =>
      obtain rfl := Option.some_inj.mp hg
      dsimp only at hx
      split at hx
      · cases hx
      · rename_i some_base
        cases i with
        | zero =>
          obtain rfl := Option.some_inj.mp hx
          exact .itself (by simpa using some_base)
        | succ i => cases hx
    | 1, hg =>
      obtain rfl := Option.some_inj.mp hg
      dsimp only at hx
      rw [List.getElem?_map, Option.map_eq_some_iff] at hx
      obtain ⟨ending, he, rfl⟩ := hx
      exact .ended he
    | 2, hg =>
      obtain rfl := Option.some_inj.mp hg
      cases hs : generatedEndings.findSome? (withoutEnd? base) with
      | none =>
        rw [hs] at hx
        cases hx
      | some stem =>
        rw [hs] at hx
        dsimp only [Option.toList] at hx
        rw [List.flatMap_singleton, List.getElem?_map, Option.map_eq_some_iff] at hx
        obtain ⟨ending, he, rfl⟩ := hx
        obtain ⟨generated, hgen, e⟩ := findSome?_generated_eq_some_iff.mp hs
        exact .replaced hgen e he
    | 3, hg =>
      obtain rfl := Option.some_inj.mp hg
      dsimp only at hx
      rw [List.getElem?_map, Option.map_eq_some_iff] at hx
      obtain ⟨name, hn, rfl⟩ := hx
      rw [below_eq]
      exact .index hn
    | k + 4, hg => cases hg
  · intro h
    cases h with
    | itself some_base =>
      exact ⟨[base], by simp [groups, some_base], rfl⟩
    | ended he => exact ⟨_, rfl, by simp [he]⟩
    | replaced hgen e he =>
      have hs := findSome?_generated_eq_some_iff.mpr ⟨_, hgen, e⟩
      exact ⟨_, rfl, by simp [hs, he]⟩
    | index hn => exact ⟨_, rfl, by simp [hn, below_eq]⟩

theorem file?_eq_some_iff : r.file? base = some file ↔ IsFirst r base file := by
  rw [file?, candidates_eq, find?_flatten_eq_some_iff]
  simp only [isAt_groups_iff, KeySet.contains_iff]
  rfl

theorem file?_eq_none_iff : r.file? base = none ↔
    ∀ place file, IsCandidate r.config base place file → file ∉ r.files := by
  rw [file?, candidates_eq, List.find?_eq_none]
  simp only [KeySet.contains_iff]
  constructor
  · intro h place file candidate
    exact h file (isAt_groups_iff.mpr candidate).mem_flatten
  · intro h file hf
    obtain ⟨place, at'⟩ := exists_isAt_of_mem hf
    exact h place file (isAt_groups_iff.mp at')

/-- From the root a bare ending is tried where it is tried in place of the ending of a generated file. -/
theorem file?_root_of_replaced {k : Nat} {generated : String} (hgen : generated ∈ generatedEndings)
    (he : r.config.extensions[k]? = some "") (scanned : "" ∈ r.files)
    (first : ∀ place' file', IsCandidate r.config generated place' file' → file' ∈ r.files →
      ¬ Earlier place' (2, k)) :
    r.file? "" = some "" := by
  refine file?_eq_some_iff.mpr ⟨(1, k), .ended he, scanned, ?_⟩
  intro place' file' candidate scanned' earlier
  cases candidate with
  | itself some_base => exact some_base rfl
  | @ended j ending he' =>
    cases earlier with
    | left _ _ lt => exact absurd lt (Nat.lt_irrefl _)
    | right _ lt => exact first (2, j) _ (.replaced hgen String.empty_append.symm he') scanned' (.right _ lt)
  | replaced => cases earlier with | left _ _ lt => exact absurd lt (by decide)
  | index => cases earlier with | left _ _ lt => exact absurd lt (by decide)

/-- What a path means, means itself. -/
theorem file?_file? (h : r.file? base = some file) : r.file? file = some file := by
  obtain ⟨place, candidate, scanned, first⟩ := file?_eq_some_iff.mp h
  by_cases root : file = ""
  · have from_root (e : base = "") : r.file? file = some file := by
      rw [root.trans e.symm] at h ⊢
      exact h
    cases candidate with
    | itself some_base => exact from_root root
    | ended he => exact from_root (String.append_eq_empty_iff.mp root).1
    | replaced hgen e he =>
      obtain ⟨rfl, rfl⟩ := String.append_eq_empty_iff.mp root
      rw [String.empty_append] at e
      subst e
      exact file?_root_of_replaced hgen he scanned first
    | index hn =>
      refine from_root (by_contra fun some_base => ?_)
      rw [if_neg some_base] at root
      exact some_base (String.append_eq_empty_iff.mp (String.append_eq_empty_iff.mp root).1).1
  · exact file?_eq_some_iff.mpr ⟨(0, 0), .itself root, scanned, fun _ _ _ _ earlier => by
      cases earlier with
      | left _ _ lt => exact absurd lt (Nat.not_lt_zero _)
      | right _ lt => exact absurd lt (Nat.not_lt_zero _)⟩

theorem bind_file? (r : Resolver) (base : String) : (r.file? base).bind r.file? = r.file? base := by
  cases h : r.file? base with
  | none => rfl
  | some file => exact file?_file? h

/-! ## Imports -/

def modules (l : Language) (i : ImportFact) (base : String) : List String := base :: l.members i base

def Resolves (r : Resolver) (l : Language) (i : ImportFact) (base : String) : Prop :=
  ∃ m ∈ modules l i base, (r.file? m).isSome

structure IsMeant (r : Resolver) (l : Language) (i : ImportFact) (base : String) (files : List String) : Prop where
  mem_iff {file : String} : file ∈ files ↔ ∃ m ∈ modules l i base, r.file? m = some file
  nodup : files.Nodup
  order : files.Pairwise fun a b =>
    (modules l i base).findIdx (r.file? · = some a) < (modules l i base).findIdx (r.file? · = some b)

theorem mem_targets_iff : file ∈ r.targets l i base ↔ ∃ m ∈ modules l i base, r.file? m = some file := by
  rw [targets, List.mem_eraseDups, List.mem_filterMap]
  rfl

theorem isMeant_targets (r : Resolver) (l : Language) (i : ImportFact) (base : String) :
    IsMeant r l i base (r.targets l i base) :=
  ⟨mem_targets_iff, nodup_eraseDups _, pairwise_eraseDups_filterMap r.file? (modules l i base)⟩

theorem targets_ne_nil_iff : r.targets l i base ≠ [] ↔ Resolves r l i base := by
  constructor
  · intro some_file
    obtain ⟨file, hf⟩ := List.exists_mem_of_ne_nil _ some_file
    obtain ⟨m, hm, h⟩ := mem_targets_iff.mp hf
    exact ⟨m, hm, Option.isSome_of_eq_some h⟩
  · rintro ⟨m, hm, h⟩
    obtain ⟨file, h⟩ := Option.isSome_iff_exists.mp h
    exact List.ne_nil_of_mem (mem_targets_iff.mpr ⟨m, hm, h⟩)

/-- The files that an import means are those of the first base where it means any. -/
theorem exists_base_of_resolve {files : List String} (h : r.resolve l importer i = .internal files) :
    ∃ before base after, l.bases i.specifier importer = before ++ base :: after ∧
      (∀ b ∈ before, ¬ Resolves r l i b) ∧ Resolves r l i base ∧ IsMeant r l i base files := by
  simp only [resolve] at h
  split at h
  · rename_i found hfound
    obtain rfl := Resolution.internal.inj h
    obtain ⟨some_file, before, after, e, none_before⟩ := List.find?_eq_some_iff_append.mp hfound
    obtain ⟨before, rest, e', rfl, hrest⟩ := List.map_eq_append_iff.mp e
    obtain ⟨base, after, rfl, rfl, rfl⟩ := List.map_eq_cons_iff.mp hrest
    refine ⟨before, base, after, e', fun b hb => ?_, targets_ne_nil_iff.mp (by simpa using some_file),
      isMeant_targets r l i base⟩
    rw [← targets_ne_nil_iff, not_not]
    simpa using none_before _ (List.mem_map_of_mem hb)
  · split at h <;> cases h

/-- Without a base where it means anything an import is external, or it is missing. -/
theorem resolve_of_not_resolves (h : ∀ base ∈ l.bases i.specifier importer, ¬ Resolves r l i base) :
    r.resolve l importer i = if l.isRelative i.specifier then .unresolved else .external := by
  have none : ((l.bases i.specifier importer).map (r.targets l i)).find? (!·.isEmpty) = none := by
    refine List.find?_eq_none.mpr fun files hf => ?_
    obtain ⟨base, hb, rfl⟩ := List.mem_map.mp hf
    have empty := not_not.mp (mt targets_ne_nil_iff.mp (h base hb))
    simp [empty]
  rw [resolve, none]

theorem exists_resolve_eq_internal_iff : (∃ files, r.resolve l importer i = .internal files) ↔
    ∃ base ∈ l.bases i.specifier importer, Resolves r l i base := by
  constructor
  · rintro ⟨files, h⟩
    obtain ⟨before, base, after, e, -, resolves, -⟩ := exists_base_of_resolve h
    exact ⟨base, e ▸ List.mem_append_right _ List.mem_cons_self, resolves⟩
  · intro some_base
    have found : ((l.bases i.specifier importer).map (r.targets l i)).find? (!·.isEmpty) ≠ none := by
      obtain ⟨base, hb, resolves⟩ := some_base
      intro none
      have empty := List.find?_eq_none.mp none _ (List.mem_map_of_mem hb)
      exact targets_ne_nil_iff.mpr resolves (by simpa using empty)
    obtain ⟨files, h⟩ := Option.ne_none_iff_exists'.mp found
    exact ⟨files, by rw [resolve, h]⟩

/-- All answers but files are given only where no base yields any. -/
theorem resolve_eq_iff {answer : Resolution} (h : ∀ files, answer ≠ .internal files) :
    r.resolve l importer i = answer ↔ (∀ base ∈ l.bases i.specifier importer, ¬ Resolves r l i base) ∧
      (if l.isRelative i.specifier then .unresolved else .external) = answer := by
  by_cases some_base : ∃ base ∈ l.bases i.specifier importer, Resolves r l i base
  · obtain ⟨files, found⟩ := exists_resolve_eq_internal_iff.mpr some_base
    obtain ⟨base, hb, resolves⟩ := some_base
    rw [found]
    exact iff_of_false (h files).symm fun missing => missing.1 base hb resolves
  · have no_base : ∀ base ∈ l.bases i.specifier importer, ¬ Resolves r l i base :=
      fun base hb resolves => some_base ⟨base, hb, resolves⟩
    rw [resolve_of_not_resolves no_base, and_iff_right no_base]

/-- A base path means the first of its candidates that is a file. An import means what its modules
mean at the first base where any means a file, and where none does, it is missing if it spells a
path and external if it does not. -/
theorem resolve_follows_candidates (r : Resolver) (l : Language) (importer : String) (i : ImportFact) :
    (∀ base file, r.file? base = some file ↔ IsFirst r base file) ∧
    (∀ base, r.file? base = none ↔ ∀ place file, IsCandidate r.config base place file → file ∉ r.files) ∧
    (∀ base, (r.file? base).bind r.file? = r.file? base) ∧
    ((∃ files, r.resolve l importer i = .internal files) ↔
      ∃ base ∈ l.bases i.specifier importer, Resolves r l i base) ∧
    (∀ files, r.resolve l importer i = .internal files → files ≠ [] ∧ (∀ file ∈ files, file ∈ r.files) ∧
      ∃ before base after, l.bases i.specifier importer = before ++ base :: after ∧
        (∀ b ∈ before, ¬ Resolves r l i b) ∧ Resolves r l i base ∧ IsMeant r l i base files) ∧
    (r.resolve l importer i = .unresolved ↔
      (∀ base ∈ l.bases i.specifier importer, ¬ Resolves r l i base) ∧ l.isRelative i.specifier = true) ∧
    (r.resolve l importer i = .external ↔
      (∀ base ∈ l.bases i.specifier importer, ¬ Resolves r l i base) ∧ l.isRelative i.specifier = false) := by
  refine ⟨fun _ _ => file?_eq_some_iff, fun _ => file?_eq_none_iff, bind_file? r, exists_resolve_eq_internal_iff,
    fun files h => ⟨ne_nil_of_resolve h, fun _ hf => mem_of_resolve h hf, exists_base_of_resolve h⟩, ?_, ?_⟩
  · rw [resolve_eq_iff fun _ => Resolution.noConfusion]
    exact and_congr_right fun _ => by cases l.isRelative i.specifier <;> decide
  · rw [resolve_eq_iff fun _ => Resolution.noConfusion]
    exact and_congr_right fun _ => by cases l.isRelative i.specifier <;> decide

end Resolver

end Interlink
