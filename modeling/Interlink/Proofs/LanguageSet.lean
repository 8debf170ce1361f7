import Interlink.LanguageSet
import Mathlib

/-!
# Readers of paths

A language that is added takes over its extensions, so an extension belongs to the last of the
languages that list it, and where a set keeps its owner there is a language. The owner of a path's
extension need not handle the path; then the last language that does reads it. Where all languages
go by their extensions, the owner is that language.
-/

namespace Interlink

/-- The language handles the paths with an extension of its own, and no others. -/
def Language.GoesByExtension (l : Language) : Prop :=
  ∀ path, l.handles path = (Path.extension? path).any l.extensions.contains

namespace LanguageSet

variable {s : LanguageSet} {ls : List Language} {l : Language} {ext path : String} {place : Nat}

/-! ## Owners of extensions -/

structure Owns (ls : List Language) (ext : String) (place : Nat) (l : Language) : Prop where
  stands : ls[place]? = some l
  lists : ext ∈ l.extensions
  last : ∀ later m, place < later → ls[later]? = some m → ext ∉ m.extensions

theorem owns_snoc_of_mem (h : ext ∈ l.extensions) :
    (∃ m, Owns (ls ++ [l]) ext place m) ↔ ls.length = place := by
  have newest : (ls ++ [l])[ls.length]? = some l := List.getElem?_concat_length
  have bound {i : Nat} {k : Language} (stands : (ls ++ [l])[i]? = some k) : i ≤ ls.length := by
    have inside := (List.getElem?_eq_some_iff.mp stands).1
    rw [List.length_append, List.length_singleton] at inside
    exact Nat.le_of_lt_succ inside
  constructor
  · intro ⟨m, stands, lists, last⟩
    by_cases older : place < ls.length
    · exact absurd h (last _ l older newest)
    · exact Nat.le_antisymm (Nat.le_of_not_lt older) (bound stands)
  · intro e
    subst e
    exact ⟨l, newest, h, fun later m after stands => absurd (bound stands) (Nat.not_le_of_lt after)⟩

theorem owns_snoc_of_not_mem (h : ext ∉ l.extensions) {m : Language} :
    Owns (ls ++ [l]) ext place m ↔ Owns ls ext place m := by
  have split {i : Nat} {k : Language} (stands : (ls ++ [l])[i]? = some k) : ls[i]? = some k ∨ k = l := by
    rw [List.getElem?_append] at stands
    split at stands
    · exact .inl stands
    · exact .inr (List.mem_singleton.mp (List.mem_of_getElem? stands))
  have keep {i : Nat} {k : Language} (stands : ls[i]? = some k) : (ls ++ [l])[i]? = some k := by
    rwa [List.getElem?_append_left (List.getElem?_eq_some_iff.mp stands).1]
  constructor
  · intro ⟨stands, lists, last⟩
    refine ⟨(split stands).resolve_right fun e => h (e ▸ lists), lists, fun later k after there => ?_⟩
    exact last later k after (keep there)
  · intro ⟨stands, lists, last⟩
    refine ⟨keep stands, lists, fun later k after there => ?_⟩
    rcases split there with old | rfl
    · exact last later k after old
    · exact h

theorem find?_owners_add :
    (s.add l).owners.find? ext = if ext ∈ l.extensions then some s.size else s.owners.find? ext := by
  have all (exts : List String) (t : Table Nat) :
      (exts.foldl (fun owners ext => owners.insert ext s.size) t).find? ext =
        if ext ∈ exts then some s.size else t.find? ext := by
    induction exts generalizing t with
    | nil => simp
    | cons e exts ih =>
      rw [List.foldl_cons, ih, Table.find?_insert]
      by_cases he : ext = e <;> simp [he]
  exact all l.extensions s.owners

/-! ## Runs of additions -/

theorem ofList_snoc (ls : List Language) (l : Language) : ofList (ls ++ [l]) = (ofList ls).add l := by
  rw [ofList, List.foldl_append]
  rfl

@[simp] theorem languages_ofList (ls : List Language) : (ofList ls).languages = ls := by
  induction ls using List.reverseRecOn with
  | nil => rfl
  | append_singleton ls l ih => rw [ofList_snoc, add, ih]

theorem find?_owners_ofList : (ofList ls).owners.find? ext = some place ↔ ∃ l, Owns ls ext place l := by
  induction ls using List.reverseRecOn with
  | nil =>
    refine iff_of_false nofun fun ⟨l, owns⟩ => ?_
    cases owns.stands
  | append_singleton ls l ih =>
    rw [ofList_snoc, find?_owners_add]
    by_cases h : ext ∈ l.extensions
    · rw [if_pos h, Option.some_inj, owns_snoc_of_mem h, size, languages_ofList]
    · rw [if_neg h, ih]
      exact exists_congr fun m => (owns_snoc_of_not_mem h).symm

theorem ofExtension?_ofList_eq_some_iff :
    (ofList ls).ofExtension? ext = some l ↔ ∃ place, Owns ls ext place l := by
  rw [ofExtension?, Option.bind_eq_some_iff, languages_ofList]
  refine exists_congr fun place => ?_
  rw [find?_owners_ofList]
  constructor
  · intro ⟨⟨m, owns⟩, stands⟩
    exact Option.some_inj.mp (owns.stands.symm.trans stands) ▸ owns
  · intro owns
    exact ⟨⟨l, owns⟩, owns.stands⟩

/-- The table of owners answers like a search from the last language to the first. -/
theorem ofExtension?_ofList (ls : List Language) (ext : String) :
    (ofList ls).ofExtension? ext = ls.reverse.find? (·.extensions.contains ext) := by
  induction ls using List.reverseRecOn with
  | nil => rfl
  | append_singleton ls l ih =>
    rw [List.reverse_append, List.reverse_singleton, List.singleton_append]
    by_cases h : ext ∈ l.extensions
    · rw [List.find?_cons_of_pos (by simpa using h)]
      obtain ⟨m, owns⟩ : ∃ m, Owns (ls ++ [l]) ext ls.length m := (owns_snoc_of_mem h).mpr rfl
      have newest : l = m := Option.some_inj.mp (List.getElem?_concat_length.symm.trans owns.stands)
      exact ofExtension?_ofList_eq_some_iff.mpr ⟨ls.length, newest ▸ owns⟩
    · rw [List.find?_cons_of_neg (by simpa using h), ← ih]
      refine Option.ext fun m => ?_
      rw [ofExtension?_ofList_eq_some_iff, ofExtension?_ofList_eq_some_iff]
      exact exists_congr fun place => owns_snoc_of_not_mem h

/-! ## Readers -/

theorem ofPath?_eq (s : LanguageSet) (path : String) : s.ofPath? path =
    (((Path.extension? path).bind s.ofExtension?).filter (·.handles path)).or
      (s.languages.reverse.find? (·.handles path)) := by
  unfold ofPath?
  cases ((Path.extension? path).bind s.ofExtension?).filter (·.handles path) with
  | none => exact rfl
  | some l => exact rfl

theorem handles_of_ofPath? (h : (ofList ls).ofPath? path = some l) : l ∈ ls ∧ l.handles path = true := by
  rw [ofPath?_eq, Option.or_eq_some_iff, languages_ofList] at h
  rcases h with owner | ⟨_, newest⟩
  · obtain ⟨owner, handles⟩ := Option.filter_eq_some_iff.mp owner
    obtain ⟨ext, _, owner⟩ := Option.bind_eq_some_iff.mp owner
    obtain ⟨place, owns⟩ := ofExtension?_ofList_eq_some_iff.mp owner
    exact ⟨List.mem_of_getElem? owns.stands, handles⟩
  · exact ⟨List.mem_reverse.mp (List.mem_of_find?_eq_some newest), by simpa using List.find?_some newest⟩

theorem exists_ofPath? (hl : l ∈ ls) (h : l.handles path = true) : ∃ m, (ofList ls).ofPath? path = some m := by
  have found : (ls.reverse.find? (·.handles path)).isSome = true :=
    List.find?_isSome.mpr ⟨l, List.mem_reverse.mpr hl, h⟩
  rw [← Option.isSome_iff_exists, ofPath?_eq, Option.isSome_or, languages_ofList, found, Bool.or_true]

section
variable (h : ∀ l ∈ ls, l.GoesByExtension)

include h

theorem newest_eq (path : String) : ls.reverse.find? (·.handles path) =
    (Path.extension? path).bind (ofList ls).ofExtension? := by
  have own : ls.reverse.find? (·.handles path) =
      ls.reverse.find? fun l => (Path.extension? path).any l.extensions.contains :=
    List.find?_congr fun l hl => h l (List.mem_reverse.mp hl) path
  rw [own]
  cases Path.extension? path with
  | none => exact List.find?_eq_none.mpr fun l _ => nofun
  | some ext => rw [Option.bind_some, ofExtension?_ofList]; rfl

theorem ofPath?_eq_newest (path : String) :
    (ofList ls).ofPath? path = ls.reverse.find? (·.handles path) := by
  rw [ofPath?_eq, languages_ofList, newest_eq h]
  cases owner : (Path.extension? path).bind (ofList ls).ofExtension? with
  | none => rfl
  | some l =>
    rw [← newest_eq h] at owner
    have handles : l.handles path = true := by simpa using List.find?_some owner
    rw [Option.filter_some, if_pos handles, Option.some_or]

end

/-- Whatever languages are added, a path has a reader just in case one of them handles it, and then
its reader does. An owner is kept at the place of the last language that lists the extension. If all
languages go by extensions, both ways to find a reader lead to the last language that lists the
extension of the path. -/
theorem ofList_reads (ls : List Language) (path : String) :
    ((∃ l, (ofList ls).ofPath? path = some l) ↔ ∃ l ∈ ls, l.handles path = true) ∧
    (∀ l, (ofList ls).ofPath? path = some l → l ∈ ls ∧ l.handles path = true) ∧
    (∀ ext place, (ofList ls).owners.find? ext = some place ↔ ∃ l, Owns (ofList ls).languages ext place l) ∧
    ((∀ l ∈ ls, l.GoesByExtension) →
      (Path.extension? path).bind (ofList ls).ofExtension? = (ofList ls).languages.reverse.find? (·.handles path) ∧
      ∀ l, (ofList ls).ofPath? path = some l ↔
        ∃ ext place, Path.extension? path = some ext ∧ Owns (ofList ls).languages ext place l) := by
  rw [languages_ofList]
  refine ⟨⟨fun ⟨l, reads⟩ => ⟨l, handles_of_ofPath? reads⟩, fun ⟨l, hl, handles⟩ => exists_ofPath? hl handles⟩,
    fun l => handles_of_ofPath?, fun ext place => find?_owners_ofList,
    fun h => ⟨(newest_eq h path).symm, fun l => ?_⟩⟩
  rw [ofPath?_eq_newest h, newest_eq h, Option.bind_eq_some_iff]
  refine exists_congr fun ext => ?_
  rw [ofExtension?_ofList_eq_some_iff, exists_and_left]

example : (standard.ofPath? "web/App.jsx").map Language.name = some "typescript" := by decide +kernel

end LanguageSet

end Interlink
