import Interlink.Languages
import Interlink.Proofs.Path

/-!
# Relative imports in both languages

A module with leading dots and a specifier that climbs by `../` mean the same path: the importer's
directory, that many steps up, and from there what the rest spells.
-/

namespace Interlink.Path

open Text

def dots (n : Nat) : String := String.ofList (List.replicate n '.')

def ups : Nat → String
  | 0 => ""
  | n + 1 => "../" ++ ups n

def slashed (m : String) : String := String.ofList (m.toList.map fun c => if c = '.' then '/' else c)

variable {m importer specifier dir : String} {n d : Nat}

/-! ## Leading dots -/

theorem ne_dot_of_startsWith {c : Char} {rest : List Char} (name : startsWith m "." = false)
    (e : m.toList = c :: rest) : c ≠ '.' := by
  rintro rfl
  simp [startsWith, e] at name

theorem splitModule_dots (name : startsWith m "." = false) :
    Offside.splitModule (dots n ++ m) = (n, slashed m) := by
  have all : ∀ c ∈ List.replicate n '.', decide (c = '.') = true :=
    fun c hc => decide_eq_true (List.eq_of_mem_replicate hc)
  have spelled : (dots n ++ m).toList = List.replicate n '.' ++ m.toList := by
    rw [dots, String.toList_append, String.toList_ofList]
  have start : (dots n ++ m).toList.takeWhile (· = '.') = List.replicate n '.' := by
    rw [spelled, List.takeWhile_append_of_pos all]
    cases e : m.toList with
    | nil => rw [List.takeWhile_nil, List.append_nil]
    | cons c rest => rw [List.takeWhile_cons_of_neg (by simpa using ne_dot_of_startsWith name e), List.append_nil]
  have rest : (dots n ++ m).toList.dropWhile (· = '.') = m.toList := by
    rw [spelled, List.dropWhile_append_of_pos all]
    cases e : m.toList with
    | nil => rfl
    | cons c rest => exact List.dropWhile_cons_of_neg (by simpa using ne_dot_of_startsWith name e)
  simp only [Offside.splitModule, start, rest, List.length_replicate, slashed]

/-- Climbing by one directory after another comes to the same place as that many steps up. -/
theorem normalize_below_ups (h : IsPlain dir) (n : Nat) (p : String) :
    normalize (below dir (ups n ++ p)) = (Offside.climb n dir).bind fun above => normalize (below above p) := by
  induction n generalizing dir with
  | zero => rw [ups, String.empty_append, Offside.climb, Option.bind_some]
  | succ n ih =>
    rw [ups, String.append_assoc, normalize_below_up h, Offside.climb]
    by_cases root : dir = ""
    · rw [if_pos root, if_pos (by simp [root]), Option.bind_none]
    · rw [if_neg root, if_neg (by simpa using root), ih (isPlain_directory h)]

def relativePath (n : Nat) (m importer : String) : String := below (directory importer) (ups n ++ slashed m)

theorem bases_dots (plain : IsPlain importer) (name : startsWith m "." = false) (n : Nat) :
    python.bases (dots (n + 1) ++ m) importer = (normalize (relativePath n m importer)).toList := by
  have leads (above : String) :
      normalize (if above.isEmpty then slashed m else
        if (slashed m).isEmpty then above else above ++ "/" ++ slashed m) =
        normalize (below above (slashed m)) := by
    by_cases empty : (slashed m).isEmpty
    · obtain e : slashed m = "" := by simpa using empty
      rw [e, normalize_below_empty]
      split
      · rename_i root
        rw [show above = "" by simpa using root]
      · rfl
    · rw [if_neg empty, below]
  rw [relativePath, normalize_below_ups (isPlain_directory plain)]
  show Offside.bases _ _ = _
  rw [Offside.bases, splitModule_dots name]
  dsimp only
  rw [if_neg (Nat.succ_ne_zero n), Nat.add_sub_cancel]
  cases Offside.climb n (directory importer) with
  | none => rfl
  | some above => rw [Option.bind_some, ← leads]

/-! ## Leading steps -/

theorem normalize_below_stay (dir p : String) : normalize (below dir ("./" ++ p)) = normalize (below dir p) := by
  have cut : pieces '/' ("./" ++ p) = "." :: pieces '/' p := pieces_append "." p
  rw [normalize_below, normalize_below, cut]
  simp only [walk_cons_of_stay (Or.inr rfl)]

theorem bases_relative (h : startsWith specifier "./" = true ∨ startsWith specifier "../" = true) :
    typeScript.bases specifier importer = (normalize (below (directory importer) specifier)).toList := by
  have relative : Path.isRelative specifier = true := by
    rcases h with h | h <;> simp [Path.isRelative, h]
  have not_rooted : withoutStart? specifier "/" = none := by
    refine Option.eq_none_iff_forall_ne_some.mpr fun rest rooted => ?_
    obtain rfl := withoutStart?_eq_some_iff.mp rooted
    rcases h with h | h <;> simp [startsWith] at h
  show (relativeBase specifier importer).toList = _
  rw [relativeBase, not_rooted]
  dsimp only
  rw [if_pos relative]

theorem bases_steps (m importer : String) (n : Nat) :
    typeScript.bases ((if n = 0 then "./" else ups n) ++ slashed m) importer =
      (normalize (relativePath n m importer)).toList := by
  cases n with
  | zero =>
    rw [if_pos rfl, bases_relative (.inl (startsWith_iff.mpr ⟨_, rfl⟩)), normalize_below_stay, relativePath, ups,
      String.empty_append]
  | succ n =>
    rw [if_neg (Nat.succ_ne_zero n), relativePath]
    refine bases_relative (.inr (startsWith_iff.mpr ⟨ups n ++ slashed m, ?_⟩))
    rw [ups, String.append_assoc]

/-- Both languages give a relative import the same base, which is the root or has ordinary segments
only. There is none just when the path climbs above the root. -/
theorem relative_bases_agree (plain : IsPlain importer) (pos : 1 ≤ d) (name : startsWith m "." = false) :
    python.bases (dots d ++ m) importer = (normalize (relativePath (d - 1) m importer)).toList ∧
    (python.bases (dots d ++ m) importer = [] ↔ ClimbsAbove (pieces '/' (relativePath (d - 1) m importer))) ∧
    typeScript.bases ((if d = 1 then "./" else ups (d - 1)) ++ slashed m) importer =
      python.bases (dots d ++ m) importer ∧
    ∀ base ∈ python.bases (dots d ++ m) importer, IsPlain base := by
  obtain ⟨n, rfl⟩ := Nat.exists_eq_add_of_le' pos
  rw [bases_dots plain name, Nat.add_sub_cancel]
  refine ⟨rfl, ?_, ?_, fun base hb => isPlain_of_normalize (Option.mem_toList.mp hb)⟩
  · rw [Option.toList_eq_nil_iff, normalize_eq_none_iff]
  · rw [← bases_steps]
    exact congrArg (fun start => typeScript.bases (start ++ slashed m) importer) (if_congr (by omega) rfl rfl)

/-- From `src/pkg/app.py` the module `..core.db` and the specifier `../core/db` mean `src/core/db`. -/
theorem relative_bases_of_core : IsPlain "src/pkg/app.py" ∧ startsWith "core.db" "." = false ∧
    python.bases "..core.db" "src/pkg/app.py" = ["src/core/db"] ∧
    ¬ ClimbsAbove (pieces '/' "src/pkg/../core/db") ∧
    typeScript.bases "../core/db" "src/pkg/app.py" = ["src/core/db"] ∧ IsPlain "src/core/db" := by
  have plain : IsPlain "src/pkg/app.py" := .inr (by decide)
  have name : startsWith "core.db" "." = false := by decide
  obtain ⟨base, climbs, same, bases_plain⟩ := relative_bases_agree (d := 2) plain (by decide) name
  have lower : (normalize (relativePath 1 "core.db" "src/pkg/app.py")).toList = ["src/core/db"] := by decide
  have found : python.bases (dots 2 ++ "core.db") "src/pkg/app.py" = ["src/core/db"] := base.trans lower
  refine ⟨plain, name, found, fun above => ?_, same.trans found,
    bases_plain _ (by rw [found]; exact List.mem_singleton_self _)⟩
  rw [found] at climbs
  exact List.cons_ne_nil _ _ (climbs.mpr above)

end Interlink.Path
