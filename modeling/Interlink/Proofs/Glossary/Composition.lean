import Interlink.Proofs.Glossary.Visible

/-!
# Documents one after the other

Nothing that is read before a heading matters after it. So a text that ends with a line, with no
fence open and no front matter left open, can be followed by any text that begins with a heading:
the two define and say together what each of them does alone, with the lines of the second counted
on from those of the first.
-/

namespace Interlink

variable {n : Nat}

/-! ## Counting on -/

def Definition.moved (n : Nat) (d : Definition) : Definition := { d with line := d.line + n }

def Reference.moved (n : Nat) (r : Reference) : Reference := { r with line := r.line + n }

def Location.moved (n : Nat) (l : Location) : Location := { l with line? := l.line?.map (· + n) }

def Finding.moved (n : Nat) (f : Finding) : Finding := { f with locations := f.locations.map (·.moved n) }

namespace Glossary

open Text

variable {config : TermsConfig} {path name : String} {l : Line} {ls ls' : List Line} {block : List Line}
  {s : Section}

def Line.moved (n : Nat) (l : Line) : Line := { l with number := l.number + n }

def Section.moved (n : Nat) (s : Section) : Section := ⟨s.heading, s.line.moved n, s.block.map (·.moved n)⟩

namespace Document

def moved (n : Nat) (d : Document) : Document where
  path := d.path
  definitions := d.definitions.map (·.moved n)
  references := d.references.map (·.moved n)
  warnings := d.warnings.map (·.moved n)

def append (d d' : Document) : Document where
  path := d.path
  definitions := d.definitions ++ d'.definitions
  references := d.references ++ d'.references
  warnings := d.warnings ++ d'.warnings

end Document

/-! ## Lines that are counted on -/

theorem outsideFences_moved (n : Nat) (inside : Option Fence) (ls : List Line) :
    outsideFences inside (ls.map (·.moved n)) = (outsideFences inside ls).map (·.moved n) := by
  induction ls generalizing inside with
  | nil => rfl
  | cons l ls ih =>
    have text : (l.moved n).text = l.text := rfl
    rw [List.map_cons, outsideFences_cons, outsideFences_cons, ih, List.map_append, text]
    split <;> rfl

theorem sections_moved (n : Nat) (ls : List Line) : sections (ls.map (·.moved n)) =
    ((sections ls).1.map (·.moved n), (sections ls).2.map (·.moved n)) := by
  induction ls with
  | nil => rfl
  | cons l ls ih =>
    have text : (l.moved n).text = l.text := rfl
    rw [List.map_cons, sections, sections, ih, text]
    cases heading? l.text with
    | some h => rfl
    | none => rfl

theorem attributes_moved (n : Nat) (block : List Line) :
    attributes (block.map (·.moved n)) = (attributes block).map fun a => (a.1 + n, a.2) := by
  rw [attributes, attributes, List.filterMap_map, List.map_filterMap]
  refine List.filterMap_congr fun l _ => ?_
  rw [Option.map_map]
  rfl

theorem bodyLines_moved (n : Nat) (block : List Line) :
    bodyLines (block.map (·.moved n)) = (bodyLines block).map (·.moved n) := List.filter_map

theorem define_moved (path : String) (scope : TermScope) (name : String) (line n : Nat) (block : List Line) :
    define path scope name (line + n) (block.map (·.moved n)) = (define path scope name line block).moved n := by
  have told : (attributes (block.map (·.moved n))).map (·.2) = (attributes block).map (·.2) := by
    rw [attributes_moved, List.map_map]
    rfl
  have body : bodyText (bodyLines (block.map (·.moved n))) = bodyText (bodyLines block) := by
    rw [bodyLines_moved, bodyText, bodyText, List.flatMap_map]
    rfl
  rw [define, told, body]
  rfl

theorem unreadable_moved (path name : String) (n : Nat) (block : List Line) :
    unreadable path name (block.map (·.moved n)) = (unreadable path name block).map (·.moved n) := by
  rw [unreadable, unreadable, attributes_moved, List.filterMap_map, List.map_filterMap]
  refine List.filterMap_congr fun a _ => ?_
  obtain ⟨line, a⟩ := a
  dsimp only [Function.comp_apply]
  cases ({ scope := .global } : Draft).apply name a with
  | error message => rfl
  | ok d => rfl

theorem lineReferences_moved (path : String) (n : Nat) (l : Line) :
    lineReferences path (l.moved n) = (lineReferences path l).map (·.moved n) := by
  rw [lineReferences, lineReferences, List.map_map]
  rfl

theorem flatMap_lineReferences_moved (path : String) (n : Nat) (ls : List Line) :
    (ls.map (·.moved n)).flatMap (lineReferences path) = (ls.flatMap (lineReferences path)).map (·.moved n) := by
  rw [List.flatMap_map, List.map_flatMap]
  exact List.flatMap_congr fun l _ => lineReferences_moved path n l

namespace Section

theorem definition?_moved (config : TermsConfig) (path : String) (n : Nat) (s : Section) :
    (s.moved n).definition? config path = (s.definition? config path).map (·.moved n) := by
  rw [definition?, definition?, Option.map_map]
  refine Option.map_congr fun name _ => ?_
  exact define_moved path (config.scopeFor path) (String.ofList name) s.line.number n s.block

theorem textLines_moved (level n : Nat) (s : Section) :
    (s.moved n).textLines level = (s.textLines level).map (·.moved n) := by
  have name : (s.moved n).name? level = s.name? level := rfl
  rw [textLines, textLines, name]
  cases s.name? level with
  | some name => exact bodyLines_moved n s.block
  | none => rfl

theorem warnings_moved (level n : Nat) (path : String) (s : Section) :
    (s.moved n).warnings level path = (s.warnings level path).map (·.moved n) := by
  have name : (s.moved n).name? level = s.name? level := rfl
  rw [warnings, warnings, name]
  cases s.name? level with
  | some name => exact unreadable_moved path (String.ofList name) n s.block
  | none => rfl

end Section

theorem ofLines_eq (config : TermsConfig) (path : String) (ls : List Line) : Document.ofLines config path ls =
    { path
      definitions := (sections ls).2.filterMap (Section.definition? config path)
      references := ((sections ls).1 ++ (sections ls).2.flatMap (Section.textLines config.headingLevel)).flatMap
        (lineReferences path)
      warnings := (sections ls).2.flatMap (Section.warnings config.headingLevel path) } := rfl

theorem ofLines_moved (config : TermsConfig) (path : String) (n : Nat) (ls : List Line) :
    Document.ofLines config path (ls.map (·.moved n)) = (Document.ofLines config path ls).moved n := by
  rw [ofLines_eq, ofLines_eq, sections_moved, Document.moved]
  congr 1
  · rw [List.filterMap_map, List.map_filterMap]
    exact List.filterMap_congr fun s _ => s.definition?_moved config path n
  · rw [← flatMap_lineReferences_moved, List.map_append, List.flatMap_map, List.map_flatMap]
    simp only [Section.textLines_moved]
  · rw [List.flatMap_map, List.map_flatMap]
    exact List.flatMap_congr fun s _ => s.warnings_moved config.headingLevel n path

/-! ## Lines one after the other -/

theorem sections_append_of_heading (h : (sections ls').1 = []) (ls : List Line) :
    sections (ls ++ ls') = ((sections ls).1, (sections ls).2 ++ (sections ls').2) := by
  induction ls with
  | nil => exact Prod.ext h rfl
  | cons l ls ih =>
    rw [List.cons_append, sections, ih, sections]
    cases heading? l.text with
    | some x => rfl
    | none => rfl

theorem ofLines_append (config : TermsConfig) (path : String) (h : (sections ls').1 = []) (ls : List Line) :
    Document.ofLines config path (ls ++ ls') =
      (Document.ofLines config path ls).append (Document.ofLines config path ls') := by
  rw [ofLines_eq, ofLines_eq, ofLines_eq, sections_append_of_heading h, h, Document.append]
  simp only [List.filterMap_append, List.flatMap_append, List.nil_append, List.append_assoc]

theorem numbered_append {s : List Char} (h : s = [] ∨ s.getLast? = some '\n') (t : List Char) :
    numbered (s ++ t) = numbered s ++ (numbered t).map (·.moved (lines s).length) := by
  rw [numbered, lines_append h, List.mapIdx_append]
  congr 1
  refine List.ext_getElem? fun i => ?_
  rw [List.getElem?_map, getElem?_numbered, List.getElem?_mapIdx, Option.map_map]
  refine Option.map_congr fun x _ => ?_
  exact congrArg (Line.mk · x) (Nat.add_right_comm i (lines s).length 1)

/-! ## Headings -/

theorem hash_of_heading? {line : List Char} (h : (heading? line).isSome) :
    ∃ rest, line.dropWhile (· = ' ') = '#' :: rest := by
  unfold heading? at h
  dsimp only at h
  split at h
  · rename_i parts
    cases hd : line.dropWhile (· = ' ') with
    | nil => simp [hd] at parts
    | cons c rest =>
      by_cases hc : c = '#'
      · exact ⟨rest, by rw [hc]⟩
      · simp [hd, hc] at parts
  · cases h

theorem fenceMarker?_of_heading? {line : List Char} (h : (heading? line).isSome) : fenceMarker? line = none := by
  obtain ⟨rest, hr⟩ := hash_of_heading? h
  rw [fenceMarker?, hr]
  simp

theorem opensFrontMatter_of_heading? {line : List Char} (h : (heading? line).isSome) :
    opensFrontMatter line = false := by
  obtain ⟨rest, hr⟩ := hash_of_heading? h
  refine decide_eq_false fun e => ?_
  obtain ⟨more, hm⟩ : trimEnd line <+: line := List.rdropWhile_prefix isBlank line
  rw [← hm, e] at hr
  simp at hr

/-! ## Texts one after the other -/

section
variable {ls ls' : List (List Char)}

theorem opensFrontMatter_of_heading (heading : ∃ l ∈ ls[0]?, (heading? l).isSome) :
    ∀ l ∈ ls[0]?, opensFrontMatter l = false := by
  obtain ⟨first, hfirst, hh⟩ := heading
  intro l hl
  obtain rfl := Option.some.inj (hfirst.symm.trans hl)
  exact opensFrontMatter_of_heading? hh

/-- Front matter that is closed, or not opened, is not changed by what comes later. -/
theorem frontMatterClose?_append
    (closed : (∃ l ∈ ls[0]?, opensFrontMatter l = true) → (frontMatterClose? ls).isSome)
    (plain : ∀ l ∈ ls'[0]?, opensFrontMatter l = false) :
    frontMatterClose? (ls ++ ls') = frontMatterClose? ls := by
  cases ls with
  | nil =>
    cases ls' with
    | nil => rfl
    | cons l' ls' => simp [frontMatterClose?, FrontMatter.closing?, plain l' rfl]
  | cons l ls =>
    by_cases opens : opensFrontMatter l = true
    · have found := closed ⟨l, rfl, opens⟩
      rw [frontMatterClose?, FrontMatter.closing?, if_pos (by simpa using opens), Option.isSome_map] at found
      obtain ⟨j, hj⟩ := Option.isSome_iff_exists.mp found
      rw [List.drop_one, List.tail_cons] at hj
      simp [frontMatterClose?, FrontMatter.closing?, opens, List.findIdx?_append, hj]
    · simp [frontMatterClose?, FrontMatter.closing?, opens]

theorem bodyStart_of_heading (heading : ∃ l ∈ ls[0]?, (heading? l).isSome) : bodyStart ls = 0 := by
  have none : frontMatterClose? ls = none := by
    refine if_neg ?_
    rw [FrontMatter.opens_head?_iff]
    rintro ⟨l, hl, opens⟩
    rw [opensFrontMatter_of_heading heading l hl] at opens
    cases opens
  rw [bodyStart, none]

end

theorem visible_append {s t : List Char} (ended : s = [] ∨ s.getLast? = some '\n')
    (closed : (∃ l ∈ (lines s)[0]?, opensFrontMatter l = true) → (frontMatterClose? (lines s)).isSome)
    (shut : fenceBefore (lines s) (lines s).length = none) (heading : ∃ l ∈ (lines t)[0]?, (heading? l).isSome) :
    visible (s ++ t) = visible s ++ (visible t).map (·.moved (lines s).length) := by
  have start : bodyStart (lines (s ++ t)) = bodyStart (lines s) := by
    rw [bodyStart, bodyStart, lines_append ended,
      frontMatterClose?_append closed (opensFrontMatter_of_heading heading)]
  have unfenced : (((numbered s).drop (bodyStart (lines s))).map Line.text).foldl fenceAfter none = none := by
    rwa [fenceBefore, List.take_length, ← map_text_numbered, ← List.map_drop, map_text_numbered] at shut
  have inside : bodyStart (lines s) ≤ (numbered s).length := length_numbered s ▸ bodyStart_le (lines s)
  rw [visible_eq, start, numbered_append ended, List.drop_append_of_le_length inside,
    outsideFences_append, unfenced, outsideFences_moved, visible_eq, visible_eq, bodyStart_of_heading heading,
    List.drop_zero]

theorem sections_visible_of_heading {t : List Char} (heading : ∃ l ∈ (lines t)[0]?, (heading? l).isSome) :
    (sections (visible t)).1 = [] := by
  rw [visible_eq, bodyStart_of_heading heading, List.drop_zero, numbered]
  obtain ⟨first, hfirst, hh⟩ := heading
  obtain ⟨rest, hr⟩ : ∃ rest, lines t = first :: rest := by
    cases hl : lines t with
    | nil => simp [hl] at hfirst
    | cons l rest =>
      rw [hl] at hfirst
      exact ⟨rest, by rw [Option.some.inj hfirst]⟩
  obtain ⟨h, hh⟩ := Option.isSome_iff_exists.mp hh
  rw [hr, List.mapIdx_cons, outsideFences_cons,
    if_pos ⟨rfl, fenceMarker?_of_heading? (Option.isSome_of_eq_some hh)⟩, List.singleton_append, sections, hh]

namespace Document

/-- A text that begins with a heading can be read by itself. -/
theorem parse_append (config : TermsConfig) (path : String) {s t : String}
    (ended : s = "" ∨ s.toList.getLast? = some '\n')
    (closed : (∃ l ∈ (lines s.toList)[0]?, opensFrontMatter l = true) →
      (frontMatterClose? (lines s.toList)).isSome)
    (shut : fenceBefore (lines s.toList) (lines s.toList).length = none)
    (heading : ∃ l ∈ (lines t.toList)[0]?, (heading? l).isSome) :
    parse config path (s ++ t) =
      (parse config path s).append ((parse config path t).moved (lines s.toList).length) := by
  have ended' : s.toList = [] ∨ s.toList.getLast? = some '\n' := ended.imp_left fun e => by rw [e]; rfl
  rw [parse, String.toList_append, visible_append ended' closed shut heading, ofLines_append, ofLines_moved]
  · rfl
  · rw [sections_moved, sections_visible_of_heading heading]
    rfl

/-- An attribute of one definition is none of the next, and a list item is an attribute only before
another heading. -/
theorem parse_append_attributes :
    let s := "---\na: b\n---\n### [[X]]\n\x60\x60\x60\n## Y\n\x60\x60\x60\n- kind: gizmo\n"
    let t := "## Part\n- related: [[X]]\n### [[Z]]\n- kind: gizmo\n"
    (s = "" ∨ s.toList.getLast? = some '\n') ∧
      ((∃ l ∈ (lines s.toList)[0]?, opensFrontMatter l = true) → (frontMatterClose? (lines s.toList)).isSome) ∧
      fenceBefore (lines s.toList) (lines s.toList).length = none ∧
        (∃ l ∈ (lines t.toList)[0]?, (heading? l).isSome) ∧
      parse {} "a.md" (s ++ t) = (parse {} "a.md" s).append ((parse {} "a.md" t).moved 8) ∧
      (parse {} "a.md" (s ++ t)).definitions.map (fun d => (d.name, d.line)) = [("X", 4), ("Z", 11)] ∧
      (parse {} "a.md" (s ++ t)).references.map (·.line) = [10] ∧
      (parse {} "a.md" (s ++ t)).warnings.map (·.locations) = [[.ofLine "a.md" 8], [.ofLine "a.md" 12]] := by
  intro s t
  have ended : s = "" ∨ s.toList.getLast? = some '\n' := .inr (by decide +kernel)
  have closed :
      (∃ l ∈ (lines s.toList)[0]?, opensFrontMatter l = true) → (frontMatterClose? (lines s.toList)).isSome :=
    fun _ => by decide +kernel
  have shut : fenceBefore (lines s.toList) (lines s.toList).length = none := by decide +kernel
  have heading : ∃ l ∈ (lines t.toList)[0]?, (heading? l).isSome :=
    ⟨"## Part".toList, by decide +kernel, by decide +kernel⟩
  have length : (lines s.toList).length = 8 := by decide +kernel
  refine ⟨ended, closed, shut, heading, ?_, by decide +kernel, by decide +kernel, by decide +kernel⟩
  exact length ▸ parse_append {} "a.md" ended closed shut heading

end Document

end Glossary

end Interlink
