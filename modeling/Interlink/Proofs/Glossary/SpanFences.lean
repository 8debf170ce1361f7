import Interlink.Proofs.Glossary.Searched

/-!
# Code spans that are taken for fences

A line may begin with a code span of three or more backticks and go on with text. Such a line opens
a fence all the same, so it is not read, and neither is what the fence hides. It is read like any
other line just in case it refers to nothing and all that comes later tells the same from inside of
the fence as without it.
-/

namespace Interlink.Glossary

open Text

variable {config : TermsConfig} {path : String} {level n i : Nat} {inside : Bool} {l : List Char} {x : Line}

/-! ## Lists without repetitions -/

section
variable {α β : Type} [DecidableEq α] {zs xs ys : List α}

theorem flatMap_of_sublist (distinct : zs.Nodup) (h : xs.Sublist zs) (f : α → List β) :
    xs.flatMap f = zs.flatMap fun z => if z ∈ xs then f z else [] := by
  induction h with
  | slnil => rfl
  | @cons xs zs z h ih =>
    obtain ⟨new, distinct⟩ := List.nodup_cons.mp distinct
    have out : z ∉ xs := fun hz => new (h.subset hz)
    rw [ih distinct, List.flatMap_cons, if_neg out, List.nil_append]
  | @cons_cons xs zs z h ih =>
    obtain ⟨new, distinct⟩ := List.nodup_cons.mp distinct
    rw [List.flatMap_cons, ih distinct, List.flatMap_cons, if_pos List.mem_cons_self]
    refine congrArg (f z ++ ·) (List.flatMap_congr fun y hy => if_congr ?_ rfl rfl)
    rw [List.mem_cons, or_iff_right fun e : y = z => new (e ▸ hy)]

/-- Two choices from a list say the same if they agree on what says anything, for nothing is said twice. -/
theorem flatMap_eq_iff_of_sublist (distinct : zs.Nodup) (hx : xs.Sublist zs) (hy : ys.Sublist zs) {f : α → List β}
    (own : ∀ a ∈ zs, ∀ b ∈ zs, ∀ c ∈ f a, c ∈ f b → a = b) :
    xs.flatMap f = ys.flatMap f ↔ ∀ z ∈ zs, f z ≠ [] → (z ∈ xs ↔ z ∈ ys) := by
  constructor
  · intro same z hz told
    obtain ⟨c, hc⟩ := List.exists_mem_of_ne_nil _ told
    have found {xs ys : List α} (hy : ys.Sublist zs) (same : xs.flatMap f = ys.flatMap f) (h : z ∈ xs) :
        z ∈ ys := by
      obtain ⟨y, hmem, hcy⟩ := List.mem_flatMap.mp (same ▸ List.mem_flatMap.mpr ⟨z, h, hc⟩)
      exact own z hz y (hy.subset hmem) c hc hcy ▸ hmem
    exact ⟨found hy same, found hx same.symm⟩
  · intro alike
    rw [flatMap_of_sublist distinct hx, flatMap_of_sublist distinct hy]
    refine List.flatMap_congr fun z hz => ?_
    by_cases silent : f z = []
    · rw [silent, ite_self, ite_self]
    · exact if_congr (alike z hz silent) rfl rfl

end

/-! ## Lines that begin with a code span -/

/-- The line begins, after three spaces at most, with a run of `n` backticks, at least three, that a
later run of just as many closes. -/
def BeginsWithSpan (n : Nat) (line : List Char) : Prop :=
  3 ≤ n ∧ ∃ margin code rest, margin ≤ 3 ∧
    line = List.replicate margin ' ' ++ (List.replicate n '\x60' ++ (code ++ (List.replicate n '\x60' ++ rest))) ∧
    code ≠ [] ∧ code.head? ≠ some '\x60' ∧ code.getLast? ≠ some '\x60' ∧ rest.head? ≠ some '\x60'

theorem takeWhile_run {c : Char} {rest : List Char} (h : rest.head? ≠ some c) (n : Nat) :
    (List.replicate n c ++ rest).takeWhile (· = c) = List.replicate n c := by
  rw [List.takeWhile_append_of_pos fun x hx => decide_eq_true (List.eq_of_mem_replicate hx)]
  cases rest with
  | nil => simp
  | cons x rest => simpa using h

theorem fenceMarker?_of_beginsWithSpan (h : BeginsWithSpan n l) :
    ∃ info, fenceMarker? l = some (⟨'\x60', n⟩, info) := by
  obtain ⟨least, margin, code, rest, narrow, rfl, some_code, head, _⟩ := h
  obtain ⟨m, rfl⟩ : ∃ m, n = m + 1 := ⟨n - 1, by omega⟩
  have next : (code ++ (List.replicate (m + 1) '\x60' ++ rest)).head? ≠ some '\x60' := by
    rwa [List.head?_append_of_ne_nil _ some_code]
  generalize code ++ (List.replicate (m + 1) '\x60' ++ rest) = tail at next
  have body : (List.replicate margin ' ' ++ (List.replicate (m + 1) '\x60' ++ tail)).dropWhile (· = ' ') =
      '\x60' :: (List.replicate m '\x60' ++ tail) := by
    rw [List.dropWhile_append_of_pos fun x hx => decide_eq_true (List.eq_of_mem_replicate hx)]
    rfl
  have run :
      ('\x60' :: (List.replicate m '\x60' ++ tail)).takeWhile (· = '\x60') = List.replicate (m + 1) '\x60' :=
    takeWhile_run next (m + 1)
  have width : (List.replicate margin ' ' ++ (List.replicate (m + 1) '\x60' ++ tail)).length -
      ('\x60' :: (List.replicate m '\x60' ++ tail)).length = margin := by
    simp only [List.length_append, List.length_replicate, List.length_cons]
    omega
  unfold fenceMarker?
  dsimp only
  rw [body]
  dsimp only
  rw [run, width, if_pos ⟨narrow, .inl rfl, by simpa using least⟩, List.length_replicate]
  exact ⟨_, rfl⟩

theorem mark_of_fenceMarker? {f : Fence} {info : List Char} (h : fenceMarker? l = some (f, info)) :
    ∃ c rest, l.dropWhile (· = ' ') = c :: rest ∧ (c = '\x60' ∨ c = '~') := by
  unfold fenceMarker? at h
  dsimp only at h
  split at h
  · cases h
  · rename_i c rest hd
    split at h
    · rename_i parts
      exact ⟨c, rest, hd, parts.2.1⟩
    · cases h

/-- A mark of a fence is none of front matter. -/
theorem closesFrontMatter_of_fenceMarker? {f : Fence} {info : List Char} (h : fenceMarker? l = some (f, info)) :
    closesFrontMatter l = false := by
  obtain ⟨c, rest, hd, hc⟩ := mark_of_fenceMarker? h
  obtain ⟨more, hm⟩ : trimEnd l <+: l := List.rdropWhile_prefix isBlank l
  refine Bool.eq_false_iff.mpr fun closes => ?_
  have mark : trimEnd l = ['-', '-', '-'] ∨ trimEnd l = ['.', '.', '.'] := by
    simpa [closesFrontMatter, opensFrontMatter] using closes
  rcases mark with e | e <;> rw [← hm, e] at hd <;> rcases hc with rfl | rfl <;> simp at hd

/-! ## Texts with an empty line -/

section
variable {ls : List (List Char)} {l' : List Char}

theorem map_set_of_eq {p : List Char → Bool} (hl : ls[i]? = some l) (same : p l' = p l) :
    (ls.set i l').map p = ls.map p := by
  refine List.ext_getElem? fun k => ?_
  rw [List.getElem?_map, List.getElem?_map, List.getElem?_set]
  split
  · rename_i hk
    rw [if_pos (List.getElem?_eq_some_iff.mp hl).1, ← hk, hl, Option.map_some, Option.map_some, same]
  · rfl

/-- An empty line for a mark of a fence changes no front matter. -/
theorem bodyStart_set {f : Fence} {info : List Char} (hl : ls[i]? = some l)
    (mark : fenceMarker? l = some (f, info)) :
    bodyStart (ls.set i []) = bodyStart ls := by
  have closes : closesFrontMatter [] = closesFrontMatter l := (closesFrontMatter_of_fenceMarker? mark).symm
  have opens : opensFrontMatter [] = opensFrontMatter l := by
    have := closesFrontMatter_of_fenceMarker? mark
    rw [closesFrontMatter, Bool.or_eq_false_iff] at this
    exact this.1.symm
  have same := FrontMatter.closing?_congr 1 (map_set_of_eq hl opens) (map_set_of_eq hl closes)
  rw [bodyStart, frontMatterClose?, same, bodyStart, frontMatterClose?]

end

def earlier (s : List Char) (i : Nat) : List Line :=
  outsideFences none (((numbered s).take i).drop (bodyStart (lines s)))

def later (s : List Char) (i : Nat) : List Line := (numbered s).drop (i + 1)

section
variable {s t : List Char}

theorem visible_eq_around (hl : (lines s)[i]? = some l) (inBody : bodyStart (lines s) ≤ i)
    (outside : fenceBefore (lines s) i = none) :
    visible s = earlier s i ++ outsideFences none (⟨i + 1, l⟩ :: later s i) := by
  have short : i < (numbered s).length := length_numbered s ▸ (List.getElem?_eq_some_iff.mp hl).1
  have here : (numbered s)[i] = ⟨i + 1, l⟩ := by
    refine Option.some.inj ((List.getElem?_eq_getElem short).symm.trans ?_)
    rw [getElem?_numbered, hl, Option.map_some]
  have cut : (numbered s).drop (bodyStart (lines s)) =
      ((numbered s).take i).drop (bodyStart (lines s)) ++ (⟨i + 1, l⟩ :: later s i) := by
    rw [later, ← here, ← List.drop_eq_getElem_cons short,
      ← List.drop_append_of_le_length (by rw [List.length_take]; omega), List.take_append_drop]
  have state :
      ((((numbered s).take i).drop (bodyStart (lines s))).map Line.text).foldl fenceAfter none = none := by
    rw [List.map_drop, List.map_take, map_text_numbered]
    exact outside
  rw [visible_eq, cut, outsideFences_append, state, earlier]

theorem earlier_set {f : Fence} {info : List Char} (hl : (lines s)[i]? = some l)
    (mark : fenceMarker? l = some (f, info))
    (ht : lines t = (lines s).set i []) : earlier t i = earlier s i := by
  have same : (numbered t).take i = (numbered s).take i := by
    rw [numbered, ht, List.mapIdx_set, List.take_set, List.set_eq_of_length_le (List.length_take_le _ _), numbered]
  rw [earlier, same, ht, bodyStart_set hl mark, earlier]

theorem later_set (ht : lines t = (lines s).set i []) : later t i = later s i := by
  rw [later, numbered, ht, List.mapIdx_set, List.drop_set_of_lt (Nat.lt_succ_self i), later, numbered]

theorem number_of_mem_earlier (h : x ∈ earlier s i) : x.number ≤ i := by
  have hx := List.mem_of_mem_drop ((outsideFences_sublist _ _).subset h)
  obtain ⟨k, hk, rfl⟩ := List.getElem_of_mem hx
  rw [List.length_take] at hk
  simp only [numbered, List.getElem_take, List.getElem_mapIdx]
  omega

theorem number_of_mem_later (h : x ∈ later s i) : i + 1 < x.number := by
  obtain ⟨k, _, rfl⟩ := List.getElem_of_mem h
  simp only [later, numbered, List.getElem_drop, List.getElem_mapIdx]
  omega

theorem eq_of_mem_later {y : Line} (hx : x ∈ later s i) (hy : y ∈ later s i) (h : x.number = y.number) :
    x = y := by
  obtain ⟨j, _, rfl⟩ := List.getElem_of_mem (List.mem_of_mem_drop hx)
  obtain ⟨k, _, rfl⟩ := List.getElem_of_mem (List.mem_of_mem_drop hy)
  obtain rfl : j = k := by simpa [numbered] using h
  rfl

theorem nodup_later (s : List Char) (i : Nat) : (later s i).Nodup :=
  ((pairwise_number_numbered s).sublist (List.drop_sublist (i + 1) _)).imp fun h e =>
    Nat.ne_of_lt h (congrArg Line.number e)

end

/-! ## What the fence hides -/

deriving instance DecidableEq for Line

/-- Nothing that comes later depends on whether the fence is open after the line at a place: neither
which names are defined nor which references are found. -/
structure Fence.IsIdle (f : Fence) (level : Nat) (s : List Char) (i : Nat) : Prop where
  names {x : Line} : x ∈ later s i → (definedAt? level x).isSome →
    (x ∈ outsideFences (some f) (later s i) ↔ x ∈ outsideFences none (later s i))
  references {x : Line} : x ∈ later s i → references (maskCode x.text) ≠ [] →
    (x ∈ searched level ((earlier s i).foldl (openAfter level) false) (outsideFences (some f) (later s i)) ↔
      x ∈ searched level ((earlier s i).foldl (openAfter level) false) (outsideFences none (later s i)))

section
variable {s : List Char} {f : Fence}

theorem filterMap_name?_eq_iff (level : Nat) (f : Fence) (s : List Char) (i : Nat) :
    (outsideFences (some f) (later s i)).filterMap (Line.name? level) =
        (outsideFences none (later s i)).filterMap (Line.name? level) ↔
      ∀ x ∈ later s i, (definedAt? level x).isSome →
        (x ∈ outsideFences (some f) (later s i) ↔ x ∈ outsideFences none (later s i)) := by
  have own :
      ∀ a ∈ later s i, ∀ b ∈ later s i, ∀ c ∈ (a.name? level).toList, c ∈ (b.name? level).toList → a = b := by
    intro a ha b hb c hca hcb
    obtain ⟨_, _, rfl⟩ := Option.map_eq_some_iff.mp (Option.mem_toList.mp hca)
    obtain ⟨_, _, e⟩ := Option.map_eq_some_iff.mp (Option.mem_toList.mp hcb)
    exact eq_of_mem_later ha hb (congrArg Prod.snd e).symm
  have named (x : Line) : (x.name? level).toList ≠ [] ↔ (definedAt? level x).isSome := by
    rw [Line.name?]
    cases definedAt? level x <;> simp
  rw [List.filterMap_eq_flatMap_toList, List.filterMap_eq_flatMap_toList,
    flatMap_eq_iff_of_sublist (nodup_later s i) (outsideFences_sublist _ _) (outsideFences_sublist _ _) own]
  simp only [named]

theorem flatMap_lineReferences_eq_iff (level : Nat) (path : String) (inside : Bool) (f : Fence)
    (s : List Char) (i : Nat) :
    (searched level inside (outsideFences (some f) (later s i))).flatMap (lineReferences path) =
        (searched level inside (outsideFences none (later s i))).flatMap (lineReferences path) ↔
      ∀ x ∈ later s i, references (maskCode x.text) ≠ [] →
        (x ∈ searched level inside (outsideFences (some f) (later s i)) ↔
          x ∈ searched level inside (outsideFences none (later s i))) := by
  have own : ∀ a ∈ later s i, ∀ b ∈ later s i, ∀ c ∈ lineReferences path a, c ∈ lineReferences path b → a = b := by
    intro a ha b hb c hca hcb
    obtain ⟨_, _, rfl⟩ := List.mem_map.mp hca
    obtain ⟨_, _, e⟩ := List.mem_map.mp hcb
    exact eq_of_mem_later ha hb (congrArg Reference.line e).symm
  have referring (x : Line) : lineReferences path x ≠ [] ↔ references (maskCode x.text) ≠ [] := by
    rw [lineReferences, Ne, List.map_eq_nil_iff]
  rw [flatMap_eq_iff_of_sublist (nodup_later s i) ((searched_sublist _ _ _).trans (outsideFences_sublist _ _))
    ((searched_sublist _ _ _).trans (outsideFences_sublist _ _)) own]
  simp only [referring]

end

namespace Document

/-- The line at a place is read like any line of text: an empty line for it changes no name that is
defined, nor a reference of any other line, and its own references are those outside of its code spans. -/
structure ReadsAsText (config : TermsConfig) (path s : String) (i : Nat) (l : List Char) : Prop where
  names {t : String} : lines t.toList = (lines s.toList).set i [] →
    (parse config path t).names = (parse config path s).names
  elsewhere {t : String} : lines t.toList = (lines s.toList).set i [] →
    (parse config path t).references.filter (·.line ≠ i + 1) =
      (parse config path s).references.filter (·.line ≠ i + 1)
  here : (parse config path s).references.filter (·.line = i + 1) = lineReferences path ⟨i + 1, l⟩

theorem exists_text_set (s : String) (i : Nat) : ∃ t : String, lines t.toList = (lines s.toList).set i [] := by
  refine ⟨String.ofList (textOf ((lines s.toList).set i [])), ?_⟩
  rw [String.toList_ofList]
  refine lines_textOf fun l hl => ?_
  rcases List.mem_or_eq_of_mem_set hl with hl | rfl
  · exact not_mem_of_mem_lines hl
  · exact List.not_mem_nil

theorem flatMap_searched_empty (level : Nat) (inside : Bool) (number : Nat) (ls : List Line) :
    (searched level inside (⟨number, []⟩ :: ls)).flatMap (lineReferences path) =
      (searched level inside ls).flatMap (lineReferences path) := by
  have plain : isSearched level inside ⟨number, []⟩ = true := by cases inside <;> rfl
  have still : openAfter level inside ⟨number, []⟩ = inside := rfl
  have none : lineReferences path ⟨number, []⟩ = [] := rfl
  rw [searched, if_pos plain, still, List.singleton_append, List.flatMap_cons, none, List.nil_append]

theorem line_ne_of_mem_references {ls : List Line} (h : ∀ x ∈ ls, x.number ≠ n) {r : Reference}
    (hr : r ∈ (searched level inside ls).flatMap (lineReferences path)) : r.line ≠ n := by
  obtain ⟨x, hx, hr⟩ := List.mem_flatMap.mp hr
  obtain ⟨_, _, rfl⟩ := List.mem_map.mp hr
  exact h x ((searched_sublist _ _ _).subset hx)

theorem number_ne_of_mem_around {s : List Char} {fence? : Option Fence} {x : Line}
    (h : x ∈ earlier s i ++ outsideFences fence? (later s i)) : x.number ≠ i + 1 := by
  rcases List.mem_append.mp h with before | after
  · exact Nat.ne_of_lt (Nat.lt_succ_of_le (number_of_mem_earlier before))
  · exact (Nat.ne_of_lt (number_of_mem_later ((outsideFences_sublist _ _).subset after))).symm

section
variable {s t : String} {f : Fence} {info : List Char} (config : TermsConfig) (path : String)
  (hl : (lines s.toList)[i]? = some l) (inBody : bodyStart (lines s.toList) ≤ i)
  (outside : fenceBefore (lines s.toList) i = none) (mark : fenceMarker? l = some (f, info))

include hl inBody outside mark

theorem parse_of_mark : parse config path s =
    ofLines config path (earlier s.toList i ++ outsideFences (some f) (later s.toList i)) := by
  rw [parse, visible_eq_around hl inBody outside, outsideFences_cons, if_neg (by simp [mark]), fenceAfter, mark]
  rfl

theorem parse_of_set (ht : lines t.toList = (lines s.toList).set i []) : parse config path t =
    ofLines config path (earlier s.toList i ++ ⟨i + 1, []⟩ :: outsideFences none (later s.toList i)) := by
  have short := (List.getElem?_eq_some_iff.mp hl).1
  have here : (lines t.toList)[i]? = some [] := by rw [ht, List.getElem?_set_self short]
  have start : bodyStart (lines t.toList) = bodyStart (lines s.toList) := ht ▸ bodyStart_set hl mark
  have before : (lines t.toList).take i = (lines s.toList).take i := by
    rw [ht, List.take_set, List.set_eq_of_length_le (List.length_take_le _ _)]
  have outside' : fenceBefore (lines t.toList) i = none := by
    rw [fenceBefore, before, start]
    exact outside
  rw [parse, visible_eq_around here (start ▸ inBody) outside', earlier_set hl mark ht, later_set ht,
    outsideFences_cons]
  rfl

theorem references_of_mark : (parse config path s).references = (searched config.headingLevel false
    (earlier s.toList i ++ outsideFences (some f) (later s.toList i))).flatMap (lineReferences path) := by
  rw [parse_of_mark config path hl inBody outside mark, references_ofLines]

theorem references_of_set (ht : lines t.toList = (lines s.toList).set i []) : (parse config path t).references =
    (searched config.headingLevel false
      (earlier s.toList i ++ outsideFences none (later s.toList i))).flatMap (lineReferences path) := by
  rw [parse_of_set config path hl inBody outside mark ht, references_ofLines, searched_append, List.flatMap_append,
    flatMap_searched_empty, ← List.flatMap_append, ← searched_append]

theorem names_set_iff (ht : lines t.toList = (lines s.toList).set i []) :
    (parse config path t).names = (parse config path s).names ↔
      ∀ x ∈ later s.toList i, (definedAt? config.headingLevel x).isSome →
        (x ∈ outsideFences (some f) (later s.toList i) ↔ x ∈ outsideFences none (later s.toList i)) := by
  have unnamed : Line.name? config.headingLevel ⟨i + 1, []⟩ = none := rfl
  rw [parse_of_mark config path hl inBody outside mark, parse_of_set config path hl inBody outside mark ht,
    names_ofLines, names_ofLines, List.filterMap_append, List.filterMap_append,
    List.filterMap_cons_none unnamed, List.append_right_inj, eq_comm, filterMap_name?_eq_iff]

theorem elsewhere_set_iff (ht : lines t.toList = (lines s.toList).set i []) :
    (parse config path t).references.filter (·.line ≠ i + 1) =
      (parse config path s).references.filter (·.line ≠ i + 1) ↔
      ∀ x ∈ later s.toList i, Glossary.references (maskCode x.text) ≠ [] →
        (x ∈ searched config.headingLevel ((earlier s.toList i).foldl (openAfter config.headingLevel) false)
            (outsideFences (some f) (later s.toList i)) ↔
          x ∈ searched config.headingLevel ((earlier s.toList i).foldl (openAfter config.headingLevel) false)
            (outsideFences none (later s.toList i))) := by
  have all {fence? : Option Fence} : ∀ r ∈ (searched config.headingLevel false
      (earlier s.toList i ++ outsideFences fence? (later s.toList i))).flatMap (lineReferences path),
      decide (r.line ≠ i + 1) = true :=
    fun r hr => decide_eq_true (line_ne_of_mem_references (fun _ => number_ne_of_mem_around) hr)
  rw [references_of_mark config path hl inBody outside mark,
    references_of_set config path hl inBody outside mark ht, List.filter_eq_self.mpr all,
    List.filter_eq_self.mpr all, searched_append, searched_append, List.flatMap_append, List.flatMap_append,
    List.append_right_inj, eq_comm, flatMap_lineReferences_eq_iff]

theorem here_iff : (parse config path s).references.filter (·.line = i + 1) = lineReferences path ⟨i + 1, l⟩ ↔
    Glossary.references (maskCode l) = [] := by
  have none_here : (parse config path s).references.filter (·.line = i + 1) = [] := by
    refine List.filter_eq_nil_iff.mpr fun r hr => ?_
    rw [references_of_mark config path hl inBody outside mark] at hr
    simpa using line_ne_of_mem_references (fun _ => number_ne_of_mem_around) hr
  rw [none_here, eq_comm, lineReferences, List.map_eq_nil_iff]

end

/-- A line that begins with a code span of three or more backticks is read as text just in case it
holds no reference outside of its code spans, and nothing depends on the fence that it opens. -/
theorem readsAsText_iff (config : TermsConfig) (path : String) {s : String} (hl : (lines s.toList)[i]? = some l)
    (inBody : bodyStart (lines s.toList) ≤ i) (outside : fenceBefore (lines s.toList) i = none)
    (span : BeginsWithSpan n l) : ReadsAsText config path s i l ↔
      Glossary.references (maskCode l) = [] ∧ Fence.IsIdle ⟨'\x60', n⟩ config.headingLevel s.toList i := by
  obtain ⟨info, mark⟩ := fenceMarker?_of_beginsWithSpan span
  have names {t : String} := names_set_iff (t := t) config path hl inBody outside mark
  have elsewhere {t : String} := elsewhere_set_iff (t := t) config path hl inBody outside mark
  have here := here_iff config path hl inBody outside mark
  constructor
  · intro reads
    obtain ⟨t, ht⟩ := exists_text_set s i
    have same_names := (names ht).mp (reads.names ht)
    have same_references := (elsewhere ht).mp (reads.elsewhere ht)
    exact ⟨here.mp reads.here, fun {x} => same_names x, fun {x} => same_references x⟩
  · rintro ⟨silent, idle⟩
    refine ⟨fun ht => ?_, fun ht => ?_, here.mpr silent⟩
    · exact (names ht).mpr fun x hx => idle.names hx
    · exact (elsewhere ht).mpr fun x hx => idle.references hx

/-- The end of the next fence ends both, and nothing stands between them. -/
theorem readsAsText_idle :
    let s := "### [[X]]\n\x60\x60\x60x\x60\x60\x60 is code.\n\n\x60\x60\x60rust\n[[A]]\n\x60\x60\x60\nSee [[B]].\n"
    let l := "\x60\x60\x60x\x60\x60\x60 is code.".toList
    (lines s.toList)[1]? = some l ∧ bodyStart (lines s.toList) ≤ 1 ∧ fenceBefore (lines s.toList) 1 = none ∧
      BeginsWithSpan 3 l ∧ Glossary.references (maskCode l) = [] ∧ Fence.IsIdle ⟨'\x60', 3⟩ 3 s.toList 1 ∧
      ReadsAsText {} "a.md" s 1 l ∧ (parse {} "a.md" s).references.map (·.line) = [7] := by
  intro s l
  have hl : (lines s.toList)[1]? = some l := by decide +kernel
  have inBody : bodyStart (lines s.toList) ≤ 1 := by decide +kernel
  have outside : fenceBefore (lines s.toList) 1 = none := by decide +kernel
  have span : BeginsWithSpan 3 l := ⟨by decide, 0, ['x'], " is code.".toList, by decide +kernel⟩
  have silent : Glossary.references (maskCode l) = [] := by decide +kernel
  have names : ∀ x ∈ later s.toList 1, (definedAt? 3 x).isSome →
      (x ∈ outsideFences (some ⟨'\x60', 3⟩) (later s.toList 1) ↔ x ∈ outsideFences none (later s.toList 1)) := by
    decide +kernel
  have references : ∀ x ∈ later s.toList 1, Glossary.references (maskCode x.text) ≠ [] →
      (x ∈ searched 3 ((earlier s.toList 1).foldl (openAfter 3) false)
          (outsideFences (some ⟨'\x60', 3⟩) (later s.toList 1)) ↔
        x ∈ searched 3 ((earlier s.toList 1).foldl (openAfter 3) false)
          (outsideFences none (later s.toList 1))) := by
    decide +kernel
  have idle : Fence.IsIdle ⟨'\x60', 3⟩ 3 s.toList 1 := ⟨fun {x} => names x, fun {x} => references x⟩
  exact ⟨hl, inBody, outside, span, silent, idle,
    (readsAsText_iff {} "a.md" hl inBody outside span).mpr ⟨silent, idle⟩, by decide +kernel⟩

/-- Neither the reference after a code span is found nor the one on the next line. -/
theorem not_readsAsText_span :
    let s := "\x60\x60\x60x\x60\x60\x60 and [[A]].\n[[B]]\n"
    let l := "\x60\x60\x60x\x60\x60\x60 and [[A]].".toList
    (lines s.toList)[0]? = some l ∧ bodyStart (lines s.toList) ≤ 0 ∧ fenceBefore (lines s.toList) 0 = none ∧
      BeginsWithSpan 3 l ∧ (parse {} "a.md" s).references = [] ∧ ¬ ReadsAsText {} "a.md" s 0 l := by
  intro s l
  have span : BeginsWithSpan 3 l := ⟨by decide, 0, ['x'], " and [[A]].".toList, by decide +kernel⟩
  refine ⟨by decide +kernel, by decide +kernel, by decide +kernel, span, by decide +kernel, fun reads => ?_⟩
  exact absurd reads.here (by decide +kernel)

end Document

end Interlink.Glossary
