import Interlink.Offside.Facts
import Interlink.Offside.Statements
import Interlink.Proofs.Offside.Literals

/-!
# Exported names

What a program exports are the first bindings of the names that it binds. Without a list of exported
names these are all that do not begin with an underscore. The last assignment to `__all__` and the
extensions after it list others, by literals that are read for the text without the quotes at its ends.
-/

namespace Interlink.Offside

open Text (unquote)

def boundNames (program : List Statement) : List String := (program.flatMap Statement.bindings).map (·.name)

def exportedNames (program : List Statement) : List String := (facts program).exports.map (·.name)

/-! ## First bindings -/

section
variable {e : ExportFact} {es : List ExportFact} {name : String}

theorem mem_names_firstOfEach_iff (es : List ExportFact) :
    name ∈ (firstOfEach es).map (·.name) ↔ name ∈ es.map (·.name) := by
  induction es with
  | nil => rfl
  | cons e es ih =>
    by_cases h : name = e.name
    · simp [firstOfEach, h]
    · have later : name ∈ ((firstOfEach es).filter (·.name ≠ e.name)).map (·.name) ↔
          name ∈ (firstOfEach es).map (·.name) := by
        simp only [List.mem_map, List.mem_filter, decide_eq_true_eq]
        exact ⟨fun ⟨x, ⟨hx, _⟩, hn⟩ => ⟨x, hx, hn⟩, fun ⟨x, hx, hn⟩ => ⟨x, ⟨hx, hn ▸ h⟩, hn⟩⟩
      rw [firstOfEach, List.map_cons, List.map_cons, List.mem_cons, List.mem_cons, later, ih]

theorem find?_of_mem_firstOfEach (h : e ∈ firstOfEach es) : es.find? (·.name = e.name) = some e := by
  induction es with
  | nil => cases h
  | cons first es ih =>
    rcases List.mem_cons.mp h with rfl | h
    · simp
    · obtain ⟨h, other⟩ := List.mem_filter.mp h
      have ne : first.name ≠ e.name := Ne.symm (by simpa using other)
      rw [List.find?_cons_of_neg (by simpa using ne), ih h]

theorem firstOfEach_ordered (es : List ExportFact) :
    (firstOfEach es).Pairwise fun e e' => (es.map (·.name)).idxOf e.name < (es.map (·.name)).idxOf e'.name := by
  induction es with
  | nil => exact .nil
  | cons first es ih =>
    have ne {e : ExportFact} (h : e ∈ (firstOfEach es).filter (·.name ≠ first.name)) : first.name ≠ e.name :=
      Ne.symm (by simpa using (List.mem_filter.mp h).2)
    rw [firstOfEach, List.pairwise_cons]
    refine ⟨fun e h => ?_, (ih.filter _).imp_of_mem fun h h' lt => ?_⟩
    · rw [List.map_cons, List.idxOf_cons_self, List.idxOf_cons_ne _ (ne h)]
      exact Nat.succ_pos _
    · rw [List.map_cons, List.idxOf_cons_ne _ (ne h), List.idxOf_cons_ne _ (ne h')]
      exact Nat.succ_lt_succ lt

theorem firstOfEach_filter (p : String → Bool) (es : List ExportFact) :
    firstOfEach (es.filter fun e => p e.name) = (firstOfEach es).filter fun e => p e.name := by
  induction es with
  | nil => rfl
  | cons e es ih =>
    cases h : p e.name with
    | true =>
      have kept : ∀ xs : List ExportFact,
          (e :: xs).filter (fun e => p e.name) = e :: xs.filter fun e => p e.name :=
        fun _ => List.filter_cons_of_pos h
      rw [kept, firstOfEach, firstOfEach, kept, ih, List.filter_comm]
    | false =>
      -- the filter on the other names takes nothing away that is left here
      have same : ((firstOfEach es).filter (·.name ≠ e.name)).filter (fun e => p e.name) =
          (firstOfEach es).filter fun e => p e.name := by
        rw [List.filter_filter]
        refine List.filter_congr fun x _ => ?_
        by_cases hx : x.name = e.name <;> simp [hx, h]
      rw [List.filter_cons_of_neg (by simp [h]), firstOfEach, List.filter_cons_of_neg (by simp [h]), same, ih]

end

theorem exports_eq (program : List Statement) : (facts program).exports =
    (firstOfEach (program.flatMap Statement.bindings)).filter fun e =>
      isExported (program.foldl Statement.exportList none) e.name :=
  firstOfEach_filter _ _

theorem mem_exportedNames_iff {program : List Statement} {name : String} : name ∈ exportedNames program ↔
    name ∈ boundNames program ∧ isExported (program.foldl Statement.exportList none) name = true := by
  rw [exportedNames, exports_eq, boundNames, ← mem_names_firstOfEach_iff (program.flatMap _)]
  simp only [List.mem_map, List.mem_filter]
  constructor
  · rintro ⟨e, ⟨he, h⟩, rfl⟩
    exact ⟨⟨e, he, rfl⟩, h⟩
  · rintro ⟨⟨e, he, rfl⟩, h⟩
    exact ⟨e, ⟨he, h⟩, rfl⟩

theorem exportedNames_ordered (program : List Statement) :
    (exportedNames program).Pairwise fun m n => (boundNames program).idxOf m < (boundNames program).idxOf n := by
  rw [exportedNames, exports_eq, List.pairwise_map]
  exact (firstOfEach_ordered _).filter _

/-! ## The list -/

structure Listed where
  raw : String
  direct : Bool
deriving DecidableEq

def Listed.value? (named : String → Option Char) (l : Listed) : Option String := valueOf? named l.raw

/-- The name that it is read for. A list behind a further target is not read. -/
def Listed.read? (l : Listed) : Option String := if l.direct then some (unquote l.raw) else none

def Expr.literal? : Expr → Option String
  | .string raw => some raw
  | .compound _ => none

def Expr.literals? : Expr → Option (List String)
  | .string _ => none
  | .compound parts => parts.mapM Expr.literal?

def targetsOf (target : Target) : Right → List Target
  | .absent | .value _ => [target]
  | .assignment _ target' right => target :: targetsOf target' right

def Right.last? : Right → Option Expr
  | .absent => none
  | .value e => some e
  | .assignment _ _ right => right.last?

/-- Whether a statement assigns or extends `__all__`. An annotation alone does neither. -/
def Statement.touchesList : Statement → Bool
  | .decorated d => d.touchesList
  | .assignment _ _ .absent => false
  | .assignment _ target right => (targetsOf target right).any Target.isExportList
  | .augmented target _ => target.isExportList
  | .importing .. | .importingFrom .. | .conditional .. | .definition .. | .group _ => false

def Statement.assigned? : Statement → Option (List Listed)
  | .decorated d => d.assigned?
  | .assignment _ target right =>
    let targets := targetsOf target right
    if targets.any Target.isExportList then
      (right.last?.bind Expr.literals?).map (·.map (⟨·, !targets.dropLast.any Target.isExportList⟩))
    else none
  | _ => none

def Statement.added? : Statement → Option (List Listed)
  | .decorated d => d.added?
  | .augmented target (.value e) => if target.isExportList then e.literals?.map (·.map (⟨·, true⟩)) else none
  | _ => none

/-- The literals of the last list that a program assigns to `__all__` and of those that it extends
it by afterwards. -/
inductive Lists : List Statement → List Listed → Prop
  | assigned {program : List Statement} {s : Statement} {literals : List Listed}
    (h : s.assigned? = some literals) :
    Lists (program ++ [s]) literals
  | extended {program : List Statement} {s : Statement} {literals more : List Listed}
    (before : Lists program literals)
    (h : s.added? = some more) : Lists (program ++ [s]) (literals ++ more)
  | other {program : List Statement} {s : Statement} {literals : List Listed} (before : Lists program literals)
    (h : s.touchesList = false) : Lists (program ++ [s]) literals

/-! ### How it is read -/

theorem strings_of_literals? {e : Expr} {raws : List String} (h : e.literals? = some raws) :
    e.strings = raws.map unquote := by
  cases e with
  | string raw => cases h
  | compound parts =>
    change parts.mapM Expr.literal? = some raws at h
    change parts.filterMap Expr.string? = raws.map unquote
    induction parts generalizing raws with
    | nil =>
      cases h
      rfl
    | cons part parts ih =>
      rw [List.mapM_cons] at h
      obtain ⟨raw, hp, h⟩ := Option.bind_eq_some_iff.mp h
      obtain ⟨raws, hs, h⟩ := Option.bind_eq_some_iff.mp h
      cases h
      cases part with
      | string raw' =>
        cases hp
        rw [List.filterMap_cons, ih hs]
        rfl
      | compound parts' => cases hp

theorem filterMap_read? (direct : Bool) (raws : List String) :
    (raws.map (Listed.mk · direct)).filterMap Listed.read? = if direct then raws.map unquote else [] := by
  cases direct <;> simp [List.filterMap_map, Function.comp_def, Listed.read?]

theorem targetsOf_ne_nil (target : Target) (right : Right) : targetsOf target right ≠ [] := by
  cases right <;> simp [targetsOf]

theorem assignedList_of_silent {target : Target} {right : Right} (listed? : Option (List String))
    (h : (targetsOf target right).any Target.isExportList = false) :
    assignedList listed? target right = listed? := by
  induction right generalizing target with
  | absent => cases ht : target.isExportList <;> simp [assignedList, ht]
  | value e =>
    have ht : target.isExportList = false := by simpa [targetsOf] using h
    simp [assignedList, ht]
  | assignment line target' right ih =>
    rw [targetsOf, List.any_cons, Bool.or_eq_false_iff] at h
    simp [assignedList, h.1, ih h.2]

theorem assignedList_of_literals? {target : Target} {right : Right} {e : Expr} {raws : List String}
    (listed? : Option (List String)) (h : (targetsOf target right).any Target.isExportList = true)
    (last : right.last? = some e) (he : e.literals? = some raws) :
    assignedList listed? target right =
      some (if !(targetsOf target right).dropLast.any Target.isExportList then raws.map unquote else []) := by
  induction right generalizing target with
  | absent => cases last
  | value e' =>
    cases last
    have ht : target.isExportList = true := by simpa [targetsOf] using h
    simp [assignedList, targetsOf, ht, Right.strings, strings_of_literals? he]
  | assignment line target' right ih =>
    rw [targetsOf, List.dropLast_cons_of_ne_nil (targetsOf_ne_nil target' right), List.any_cons]
    cases ht : target.isExportList with
    | true =>
      -- the direct parts of the assignment on the right are its targets and what it assigns, a list and no literal
      have nothing : (Right.assignment line target' right).strings = [] := by
        cases right with
        | absent => rfl
        | value e' =>
          cases last
          cases e <;> first | cases he | rfl
        | assignment => rfl
      simp [assignedList, ht, nothing]
    | false =>
      rw [targetsOf, List.any_cons, ht, Bool.false_or] at h
      simp [assignedList, ht, ih h last]

theorem Statement.exportList_of_silent (listed? : Option (List String)) :
    ∀ {s : Statement}, s.touchesList = false →
    s.exportList listed? = listed?
  | .decorated d, h => exportList_of_silent listed? (s := d) h
  | .assignment _ target .absent, _ => by cases ht : target.isExportList <;> simp [exportList, assignedList, ht]
  | .assignment _ _ (.value _), h => assignedList_of_silent listed? h
  | .assignment _ _ (.assignment ..), h => assignedList_of_silent listed? h
  | .augmented target right, h => by
    have ht : target.isExportList = false := h
    simp [exportList, ht]
  | .importing .., _ | .importingFrom .., _ | .conditional .., _ | .definition .., _ | .group _, _ => rfl

theorem Statement.exportList_of_assigned? (listed? : Option (List String)) :
    ∀ {s : Statement} {literals : List Listed},
    s.assigned? = some literals → s.exportList listed? = some (literals.filterMap Listed.read?)
  | .decorated d, _, h => exportList_of_assigned? listed? (s := d) h
  | .assignment _ target right, _, h => by
    rw [assigned?] at h
    split at h
    · next targeted =>
      obtain ⟨raws, hr, rfl⟩ := Option.map_eq_some_iff.mp h
      obtain ⟨e, last, he⟩ := Option.bind_eq_some_iff.mp hr
      rw [exportList, assignedList_of_literals? listed? targeted last he, filterMap_read?]
    · cases h

theorem Statement.exportList_of_added? (listed? : Option (List String)) : ∀ {s : Statement} {more : List Listed},
    s.added? = some more → s.exportList listed? = some (listed?.getD [] ++ more.filterMap Listed.read?)
  | .decorated d, _, h => exportList_of_added? listed? (s := d) h
  | .augmented target (.value e), _, h => by
    rw [added?] at h
    split at h
    · next targeted =>
      obtain ⟨raws, he, rfl⟩ := Option.map_eq_some_iff.mp h
      rw [exportList, if_pos targeted, Right.strings, strings_of_literals? he, filterMap_read?, if_pos rfl]
    · cases h

/-- At the end of a program the list holds what the literals are read for, in their order. -/
theorem foldl_exportList_of_lists {program : List Statement} {literals : List Listed}
    (h : Lists program literals) :
    program.foldl Statement.exportList none = some (literals.filterMap Listed.read?) := by
  induction h with
  | assigned h => rw [List.foldl_concat, Statement.exportList_of_assigned? _ h]
  | extended _ h ih =>
    rw [List.foldl_concat, ih, Statement.exportList_of_added? _ h, Option.getD_some, List.filterMap_append]
  | other _ h ih => rw [List.foldl_concat, ih, Statement.exportList_of_silent _ h]

theorem foldl_exportList_of_silent {program : List Statement} (h : ∀ s ∈ program, s.touchesList = false) :
    program.foldl Statement.exportList none = none := by
  induction program with
  | nil => rfl
  | cons s program ih =>
    rw [List.foldl_cons, Statement.exportList_of_silent none (h s List.mem_cons_self),
      ih fun s hs => h s (List.mem_cons_of_mem _ hs)]

/-! ## What is exported -/

/-- The exported names are the bound ones that some literal of the list stands for. -/
def ExportsListed (named : String → Option Char) (program : List Statement) (literals : List Listed) : Prop :=
  ∀ name, name ∈ exportedNames program ↔ name ∈ boundNames program ∧ ∃ l ∈ literals, l.value? named = some name

theorem mem_exportedNames_of_lists {program : List Statement} {literals : List Listed} (h : Lists program literals)
    (name : String) :
    name ∈ exportedNames program ↔ name ∈ boundNames program ∧ ∃ l ∈ literals, l.read? = some name := by
  rw [mem_exportedNames_iff, foldl_exportList_of_lists h, isExported, List.contains_iff_mem, List.mem_filterMap]

theorem exportsListed_iff {program : List Statement} {literals : List Listed} (named : String → Option Char)
    (h : Lists program literals) : ExportsListed named program literals ↔ ∀ name ∈ boundNames program,
      ((∃ l ∈ literals, l.value? named = some name) ↔ ∃ l ∈ literals, l.read? = some name) := by
  unfold ExportsListed
  simp only [mem_exportedNames_of_lists h]
  constructor
  · intro all name bound
    exact ⟨fun hv => ((all name).mpr ⟨bound, hv⟩).2, fun hr => ((all name).mp ⟨bound, hr⟩).2⟩
  · intro all name
    exact ⟨fun ⟨bound, hr⟩ => ⟨bound, (all name bound).mpr hr⟩, fun ⟨bound, hv⟩ => ⟨bound, (all name bound).mp hv⟩⟩

/-- Plain literals of lists directly to the right of `__all__` are read for what they stand for. -/
theorem exportsListed_of_plain {program : List Statement} {literals : List Listed} (named : String → Option Char)
    (h : Lists program literals) (plain : ∀ l ∈ literals, l.direct = true ∧ IsPlainLiteral l.raw) :
    ExportsListed named program literals := by
  have same : ∀ l ∈ literals, l.value? named = l.read? := fun l hl => by
    obtain ⟨direct, raw⟩ := plain l hl
    rw [Listed.value?, valueOf?_of_plain named raw, Listed.read?, if_pos direct]
  rw [exportsListed_iff named h]
  exact fun name _ => exists_congr fun l => and_congr_right fun hl => by rw [same l hl]

/-- The exports of a program have different names, in the order in which the program first binds
them, and each is that first binding. Without a list they are all names that do not begin with an
underscore. With a list of literals, they are the names that the literals stand for exactly when, of
the bound names, the literals stand for those that they are read for, as plain literals do. -/
theorem exports_of_bindings (named : String → Option Char) (program : List Statement) :
    ((exportedNames program).Pairwise fun m n => (boundNames program).idxOf m < (boundNames program).idxOf n) ∧
    (∀ e ∈ (facts program).exports, (program.flatMap Statement.bindings).find? (·.name = e.name) = some e) ∧
    ((∀ s ∈ program, s.touchesList = false) → ∀ name,
      name ∈ exportedNames program ↔ name ∈ boundNames program ∧ name.toList.head? ≠ some '_') ∧
    ∀ literals, Lists program literals →
      (ExportsListed named program literals ↔ ∀ name ∈ boundNames program,
        ((∃ l ∈ literals, l.value? named = some name) ↔ ∃ l ∈ literals, l.read? = some name)) ∧
      ((∀ l ∈ literals, l.direct = true ∧ IsPlainLiteral l.raw) → ExportsListed named program literals) := by
  refine ⟨exportedNames_ordered program, fun e he => ?_, fun silent name => ?_, fun literals lists =>
    ⟨exportsListed_iff named lists, exportsListed_of_plain named lists⟩⟩
  · rw [exports_eq] at he
    exact find?_of_mem_firstOfEach (List.mem_filter.mp he).1
  · rw [mem_exportedNames_iff, foldl_exportList_of_silent silent, isExported, decide_eq_true_iff]

/-- A list of two names that is extended by a third, and a program without a list. -/
theorem exports_of_bindings_extended :
    let define name := Statement.definition 1 .function name []
    let list := Statement.assignment 1 (.name "__all__") (.value (.compound [.string "'a'", .string "\x22_b\x22"]))
    let extension :=
      Statement.augmented (.name "__all__") (.value (.compound [.string "\x22\x22\x22c\x22\x22\x22"]))
    let literals := [⟨"'a'", true⟩, ⟨"\x22_b\x22", true⟩, ⟨"\x22\x22\x22c\x22\x22\x22", true⟩]
    ExportsListed (fun _ => none) [define "_b", list, define "c", extension, define "d"] literals ∧
      ∀ name, name ∈ exportedNames [define "_b", define "c"] ↔
        name ∈ boundNames [define "_b", define "c"] ∧ name.toList.head? ≠ some '_' := by
  intro define list extension literals
  have assigned : Lists ([define "_b"] ++ [list]) (literals.take 2) := .assigned rfl
  have extended : Lists ([define "_b", list, define "c"] ++ [extension]) (literals.take 2 ++ literals.drop 2) :=
    .extended (.other assigned rfl) rfl
  have lists : Lists ([define "_b", list, define "c", extension] ++ [define "d"]) literals := .other extended rfl
  exact ⟨((exports_of_bindings _ _).2.2.2 literals lists).1.mpr (by decide +kernel),
    (exports_of_bindings (fun _ => none) _).2.2.1 (by decide)⟩

/-- The literal stands for `visible`, but is read for a text with its letter and a quote. -/
theorem not_exportsListed_raw : ¬ ∀ program,
    parse? "__all__ = [r\x22visible\x22]
def visible(): pass
".toList = some program →
      ∀ literals, Lists program literals → ExportsListed (fun _ => none) program literals := by
  intro all_listed
  have read : (parse? "__all__ = [r\x22visible\x22]
def visible(): pass
".toList).map (fun program =>
      (program.map fun s => (s.assigned?, s.touchesList), boundNames program, exportedNames program)) =
        some ([(some [⟨"r\x22visible\x22", true⟩], true), (none, false)], ["visible"], []) := by
    decide +kernel
  obtain ⟨program, parsed, e⟩ := Option.map_eq_some_iff.mp read
  obtain ⟨statements, names⟩ := Prod.mk.inj e
  obtain ⟨bound, exported⟩ := Prod.mk.inj names
  obtain ⟨list, rest, rfl, first, statements⟩ := List.map_eq_cons_iff.mp statements
  obtain ⟨definition, rest, rfl, second, statements⟩ := List.map_eq_cons_iff.mp statements
  obtain rfl := List.map_eq_nil_iff.mp statements
  have assigned : Lists ([] ++ [list]) [⟨"r\x22visible\x22", true⟩] := .assigned (Prod.mk.inj first).1
  have lists : Lists ([list] ++ [definition]) [⟨"r\x22visible\x22", true⟩] :=
    .other assigned (Prod.mk.inj second).2
  have listed :=
    (all_listed _ parsed _ lists "visible").mpr ⟨by rw [bound]; exact List.mem_cons_self, by decide +kernel⟩
  rw [exported] at listed
  cases listed

end Interlink.Offside
