import Interlink.Offside.Facts
import Mathlib.Data.List.Lex

/-!
# Places of imports

A place in a program is the number of a statement, of a block in it, of a statement in that block,
and so on, and the order of the text is the lexicographic order of places. The imports of a program
are those of all its import statements in this order. They are for type checkers where the way to
the statement leads through the main body of a guarding `if`.
-/

namespace Interlink.Offside

/-! ## Places -/

/-- The blocks of a statement in the order of the text. The first block of an `if` is its main body. -/
def Statement.blocks : Statement → List (List Statement)
  | .conditional _ body alternatives => [body, alternatives]
  | .definition _ _ _ body => [body]
  | .decorated d => [[d]]
  | .group body => [body]
  | .importing .. | .importingFrom .. | .assignment .. | .augmented .. => []

mutual

def Statement.at? : Statement → List Nat → Option Statement
  | s, [] => some s
  | s, k :: place => (s.blocks[k]?).bind (statementAt? · place)

def statementAt? : List Statement → List Nat → Option Statement
  | _, [] => none
  | ss, i :: place => (ss[i]?).bind (·.at? place)

end

def Statement.isImport : Statement → Bool
  | .importing .. | .importingFrom .. => true
  | _ => false

def Statement.ownImports (typeOnly : Bool) : Statement → List ImportFact
  | .importing line modules => modules.map (⟨·, [], typeOnly, line⟩)
  | .importingFrom line module names => [⟨module, names, typeOnly, line⟩]
  | _ => []

mutual

def Statement.importPlaces : Statement → List (List Nat)
  | .importing .. | .importingFrom .. => [[]]
  | .conditional _ body alternatives =>
    (importPlacesOfAll body).map (0 :: ·) ++ (importPlacesOfAll alternatives).map (1 :: ·)
  | .definition _ _ _ body => (importPlacesOfAll body).map (0 :: ·)
  | .decorated d => d.importPlaces.map (0 :: 0 :: ·)
  | .group body => (importPlacesOfAll body).map (0 :: ·)
  | .assignment .. | .augmented .. => []

def importPlacesOfAll : List Statement → List (List Nat)
  | [] => []
  | s :: ss => s.importPlaces.map (0 :: ·) ++ (importPlacesOfAll ss).map (List.modifyHead (· + 1))

end

/-! ### What stands at them -/

theorem exists_cons_of_mem_importPlacesOfAll {ss : List Statement} {place : List Nat}
    (h : place ∈ importPlacesOfAll ss) :
    ∃ i rest, place = i :: rest := by
  induction ss generalizing place with
  | nil => cases h
  | cons s ss ih =>
    rw [importPlacesOfAll, List.mem_append, List.mem_map, List.mem_map] at h
    rcases h with ⟨rest, -, rfl⟩ | ⟨later, hl, rfl⟩
    · exact ⟨0, rest, rfl⟩
    · obtain ⟨i, rest, rfl⟩ := ih hl
      exact ⟨i + 1, rest, rfl⟩

theorem cons_mem_importPlacesOfAll_iff {ss : List Statement} {i : Nat} {place : List Nat} :
    i :: place ∈ importPlacesOfAll ss ↔ ∃ s, ss[i]? = some s ∧ place ∈ s.importPlaces := by
  induction ss generalizing i with
  | nil => simp [importPlacesOfAll]
  | cons s ss ih =>
    have later : i :: place ∈ (importPlacesOfAll ss).map (List.modifyHead (· + 1)) ↔
        ∃ j, i = j + 1 ∧ j :: place ∈ importPlacesOfAll ss := by
      rw [List.mem_map]
      constructor
      · rintro ⟨place', h, e⟩
        obtain ⟨j, rest, rfl⟩ := exists_cons_of_mem_importPlacesOfAll h
        obtain ⟨rfl, rfl⟩ := List.cons.inj e
        exact ⟨j, rfl, h⟩
      · rintro ⟨j, rfl, h⟩
        exact ⟨_, h, rfl⟩
    rw [importPlacesOfAll, List.mem_append, later]
    cases i with
    | zero => simp
    | succ i => simp [ih]

theorem Statement.cons_mem_importPlaces_iff {s : Statement} {k : Nat} {place : List Nat} :
    k :: place ∈ s.importPlaces ↔ ∃ block, s.blocks[k]? = some block ∧ place ∈ importPlacesOfAll block := by
  cases s with
  | importing line modules => simp [importPlaces, blocks]
  | importingFrom line module names => simp [importPlaces, blocks]
  | conditional condition body alternatives =>
    match k with
    | 0 => simp [importPlaces, blocks]
    | 1 => simp [importPlaces, blocks]
    | k + 2 => simp [importPlaces, blocks]
  | definition line kind name body => cases k <;> simp [importPlaces, blocks]
  | decorated d => cases k <;> simp [importPlaces, blocks, importPlacesOfAll]
  | assignment line target right => simp [importPlaces, blocks]
  | augmented target right => simp [importPlaces, blocks]
  | group body => cases k <;> simp [importPlaces, blocks]

theorem Statement.nil_mem_importPlaces_iff {s : Statement} : [] ∈ s.importPlaces ↔ s.isImport = true := by
  cases s <;> simp [importPlaces, isImport]

mutual

theorem Statement.mem_importPlaces_iff : ∀ (s : Statement) (place : List Nat),
    place ∈ s.importPlaces ↔ ∃ u, s.at? place = some u ∧ u.isImport = true
  | s, [] => by simp [s.nil_mem_importPlaces_iff, Statement.at?]
  | s, k :: place => by
    rw [s.cons_mem_importPlaces_iff, Statement.at?]
    simp only [mem_importPlacesOfAll_iff _ place, Option.bind_eq_some_iff]
    constructor
    · rintro ⟨block, hb, u, hu, h⟩
      exact ⟨u, ⟨block, hb, hu⟩, h⟩
    · rintro ⟨u, ⟨block, hb, hu⟩, h⟩
      exact ⟨block, hb, u, hu, h⟩

theorem mem_importPlacesOfAll_iff : ∀ (ss : List Statement) (place : List Nat),
    place ∈ importPlacesOfAll ss ↔ ∃ u, statementAt? ss place = some u ∧ u.isImport = true
  | ss, [] => by
    simp only [statementAt?, reduceCtorEq, false_and, exists_false, iff_false]
    intro h
    obtain ⟨_, _, e⟩ := exists_cons_of_mem_importPlacesOfAll h
    cases e
  | ss, i :: place => by
    rw [cons_mem_importPlacesOfAll_iff, statementAt?]
    simp only [Statement.mem_importPlaces_iff _ place, Option.bind_eq_some_iff]
    constructor
    · rintro ⟨s, hs, u, hu, h⟩
      exact ⟨u, ⟨s, hs, hu⟩, h⟩
    · rintro ⟨u, ⟨s, hs, hu⟩, h⟩
      exact ⟨s, hs, u, hu, h⟩

end

/-! ### Their order -/

theorem modifyHead_lt {ss : List Statement} {place place' : List Nat} (h : place ∈ importPlacesOfAll ss)
    (h' : place' ∈ importPlacesOfAll ss) (lt : place < place') :
    place.modifyHead (· + 1) < place'.modifyHead (· + 1) := by
  obtain ⟨i, rest, rfl⟩ := exists_cons_of_mem_importPlacesOfAll h
  obtain ⟨j, rest', rfl⟩ := exists_cons_of_mem_importPlacesOfAll h'
  simpa [List.cons_lt_cons_iff] using lt

theorem pairwise_map_cons (k : Nat) {places : List (List Nat)} (h : places.Pairwise (· < ·)) :
    (places.map (k :: ·)).Pairwise (· < ·) :=
  List.pairwise_map.mpr (h.imp fun lt => List.cons_lt_cons_iff.mpr (.inr ⟨rfl, lt⟩))

mutual

theorem Statement.importPlaces_ordered : ∀ s : Statement, s.importPlaces.Pairwise (· < ·)
  | .importing .. => List.pairwise_singleton ..
  | .importingFrom .. => List.pairwise_singleton ..
  | .conditional _ body alternatives => by
    rw [Statement.importPlaces, List.pairwise_append]
    refine ⟨pairwise_map_cons 0 (importPlacesOfAll_ordered body),
      pairwise_map_cons 1 (importPlacesOfAll_ordered alternatives), fun place h place' h' => ?_⟩
    obtain ⟨_, -, rfl⟩ := List.mem_map.mp h
    obtain ⟨_, -, rfl⟩ := List.mem_map.mp h'
    exact List.cons_lt_cons_iff.mpr (.inl Nat.one_pos)
  | .definition _ _ _ body => pairwise_map_cons 0 (importPlacesOfAll_ordered body)
  | .decorated d => by
    have h := pairwise_map_cons 0 (pairwise_map_cons 0 d.importPlaces_ordered)
    rwa [List.map_map] at h
  | .group body => pairwise_map_cons 0 (importPlacesOfAll_ordered body)
  | .assignment .. => .nil
  | .augmented .. => .nil

theorem importPlacesOfAll_ordered : ∀ ss : List Statement, (importPlacesOfAll ss).Pairwise (· < ·)
  | [] => .nil
  | s :: ss => by
    rw [importPlacesOfAll, List.pairwise_append, List.pairwise_map (f := List.modifyHead _)]
    refine ⟨pairwise_map_cons 0 s.importPlaces_ordered, ?_, fun place h place' h' => ?_⟩
    · exact (importPlacesOfAll_ordered ss).imp_of_mem fun h h' lt => modifyHead_lt h h' lt
    · obtain ⟨_, -, rfl⟩ := List.mem_map.mp h
      obtain ⟨_, hl, rfl⟩ := List.mem_map.mp h'
      obtain ⟨i, rest, rfl⟩ := exists_cons_of_mem_importPlacesOfAll hl
      exact List.cons_lt_cons_iff.mpr (.inl (Nat.succ_pos i))

end

/-! ## Guards -/

def Statement.guards : Statement → Bool
  | .conditional condition _ _ => guardsTypes condition
  | _ => false

mutual

def Statement.guarded : Statement → List Nat → Bool
  | _, [] => false
  | s, k :: place => (k == 0 && s.guards) || (s.blocks[k]?).any (guardedAt · place)

def guardedAt : List Statement → List Nat → Bool
  | _, [] => false
  | ss, i :: place => (ss[i]?).any (·.guarded place)

end

/-- A place in the main body, however deep, of an `if` on `TYPE_CHECKING` or `typing.TYPE_CHECKING`. -/
def TypeOnlyAt (program : List Statement) (place : List Nat) : Prop :=
  ∃ outer rest condition body alternatives, place = outer ++ 0 :: rest ∧
    statementAt? program outer = some (.conditional condition body alternatives) ∧
    (Text.trimmed condition = "TYPE_CHECKING" ∨ Text.trimmed condition = "typing.TYPE_CHECKING")

theorem Statement.guards_eq_true {s : Statement} : s.guards = true ↔ ∃ condition body alternatives,
    s = .conditional condition body alternatives ∧
      (Text.trimmed condition = "TYPE_CHECKING" ∨ Text.trimmed condition = "typing.TYPE_CHECKING") := by
  cases s <;> simp [guards, guardsTypes]

mutual

theorem Statement.guarded_eq_true : ∀ (s : Statement) (place : List Nat), s.guarded place = true ↔
    ∃ outer rest u, place = outer ++ 0 :: rest ∧ s.at? outer = some u ∧ u.guards = true
  | s, [] => by simp [Statement.guarded]
  | s, k :: place => by
    rw [Statement.guarded, Bool.or_eq_true, Bool.and_eq_true, beq_iff_eq, Option.any_eq_true]
    simp only [guardedAt_eq_true _ place]
    constructor
    · rintro (⟨rfl, hg⟩ | ⟨block, hb, outer, rest, u, rfl, hu, hg⟩)
      · exact ⟨[], place, s, rfl, rfl, hg⟩
      · exact ⟨k :: outer, rest, u, rfl, by rw [Statement.at?, hb]; exact hu, hg⟩
    · rintro ⟨outer, rest, u, e, hu, hg⟩
      cases outer with
      | nil =>
        cases hu
        exact .inl ⟨(List.cons.inj e).1, hg⟩
      | cons k' outer =>
        obtain ⟨rfl, rfl⟩ := List.cons.inj e
        obtain ⟨block, hb, hu⟩ := Option.bind_eq_some_iff.mp hu
        exact .inr ⟨block, hb, outer, rest, u, rfl, hu, hg⟩

theorem guardedAt_eq_true : ∀ (ss : List Statement) (place : List Nat), guardedAt ss place = true ↔
    ∃ outer rest u, place = outer ++ 0 :: rest ∧ statementAt? ss outer = some u ∧ u.guards = true
  | ss, [] => by simp [guardedAt]
  | ss, i :: place => by
    rw [guardedAt, Option.any_eq_true]
    simp only [Statement.guarded_eq_true _ place]
    constructor
    · rintro ⟨s, hs, outer, rest, u, rfl, hu, hg⟩
      exact ⟨i :: outer, rest, u, rfl, by rw [statementAt?, hs]; exact hu, hg⟩
    · rintro ⟨outer, rest, u, e, hu, hg⟩
      cases outer with
      | nil => cases hu
      | cons i' outer =>
        obtain ⟨rfl, rfl⟩ := List.cons.inj e
        obtain ⟨s, hs, hu⟩ := Option.bind_eq_some_iff.mp hu
        exact ⟨s, hs, outer, rest, u, rfl, hu, hg⟩

end

theorem guardedAt_iff {program : List Statement} {place : List Nat} :
    guardedAt program place = true ↔ TypeOnlyAt program place := by
  rw [guardedAt_eq_true, TypeOnlyAt]
  simp only [Statement.guards_eq_true]
  constructor
  · rintro ⟨outer, rest, _, e, hu, condition, body, alternatives, rfl, h⟩
    exact ⟨outer, rest, condition, body, alternatives, e, hu, h⟩
  · rintro ⟨outer, rest, condition, body, alternatives, e, hu, h⟩
    exact ⟨outer, rest, _, e, hu, condition, body, alternatives, rfl, h⟩

instance (program : List Statement) (place : List Nat) : Decidable (TypeOnlyAt program place) :=
  decidable_of_iff _ guardedAt_iff

/-! ## Imports at their places -/

def Statement.importsAt (typeOnly : Bool) (s : Statement) (place : List Nat) : List ImportFact :=
  (s.at? place).elim [] (·.ownImports (typeOnly || s.guarded place))

def importsAt (typeOnly : Bool) (ss : List Statement) (place : List Nat) : List ImportFact :=
  (statementAt? ss place).elim [] (·.ownImports (typeOnly || guardedAt ss place))

theorem Statement.importsAt_nil (typeOnly : Bool) (s : Statement) :
    s.importsAt typeOnly [] = s.ownImports typeOnly := by
  simp [importsAt, at?, guarded]

theorem Statement.importsAt_cons {s : Statement} {k : Nat} {block : List Statement} (h : s.blocks[k]? = some block)
    (typeOnly : Bool) (place : List Nat) :
    s.importsAt typeOnly (k :: place) = Offside.importsAt (typeOnly || (k == 0 && s.guards)) block place := by
  simp [importsAt, Offside.importsAt, at?, guarded, h, Bool.or_assoc]

theorem importsAt_zero (typeOnly : Bool) (s : Statement) (ss : List Statement) (place : List Nat) :
    importsAt typeOnly (s :: ss) (0 :: place) = s.importsAt typeOnly place := by
  simp [importsAt, Statement.importsAt, statementAt?, guardedAt]

theorem importsAt_modifyHead (typeOnly : Bool) (s : Statement) (ss : List Statement) (place : List Nat) :
    importsAt typeOnly (s :: ss) (place.modifyHead (· + 1)) = importsAt typeOnly ss place := by
  cases place <;> simp [importsAt, statementAt?, guardedAt]

theorem Statement.flatMap_importsAt_cons {s : Statement} {k : Nat} {block : List Statement}
    (h : s.blocks[k]? = some block) (typeOnly : Bool) (places : List (List Nat)) :
    (places.map (k :: ·)).flatMap (s.importsAt typeOnly) =
      places.flatMap (Offside.importsAt (typeOnly || (k == 0 && s.guards)) block) := by
  rw [List.flatMap_map]
  exact congrArg (List.flatMap · places) (funext (importsAt_cons h typeOnly))

mutual

theorem Statement.imports_eq : ∀ (s : Statement) (typeOnly : Bool),
    s.imports typeOnly = s.importPlaces.flatMap (s.importsAt typeOnly)
  | .importing .., _ => by
    simp [Statement.imports, Statement.importPlaces, Statement.importsAt_nil, Statement.ownImports]
  | .importingFrom .., _ => by
    simp [Statement.imports, Statement.importPlaces, Statement.importsAt_nil, Statement.ownImports]
  | .conditional condition body alternatives, typeOnly => by
    rw [Statement.imports, Statement.importPlaces, List.flatMap_append, Statement.flatMap_importsAt_cons rfl,
      Statement.flatMap_importsAt_cons rfl, importsOfAll_eq body, importsOfAll_eq alternatives]
    simp [Statement.guards]
  | .definition _ _ _ body, typeOnly => by
    rw [Statement.imports, Statement.importPlaces, Statement.flatMap_importsAt_cons rfl, importsOfAll_eq body]
    simp [Statement.guards]
  | .decorated d, typeOnly => by
    have within (place) :
        (Statement.decorated d).importsAt typeOnly (0 :: 0 :: place) = d.importsAt typeOnly place := by
      rw [Statement.importsAt_cons rfl, importsAt_zero]
      simp [Statement.guards]
    rw [Statement.imports, Statement.importPlaces, List.flatMap_map, d.imports_eq]
    exact congrArg (List.flatMap · d.importPlaces) (funext fun place => (within place).symm)
  | .group body, typeOnly => by
    rw [Statement.imports, Statement.importPlaces, Statement.flatMap_importsAt_cons rfl, importsOfAll_eq body]
    simp [Statement.guards]
  | .assignment .., _ => rfl
  | .augmented .., _ => rfl

theorem importsOfAll_eq : ∀ (ss : List Statement) (typeOnly : Bool),
    importsOfAll typeOnly ss = (importPlacesOfAll ss).flatMap (importsAt typeOnly ss)
  | [], _ => rfl
  | s :: ss, typeOnly => by
    rw [importsOfAll, importPlacesOfAll, List.flatMap_append, List.flatMap_map, List.flatMap_map, s.imports_eq,
      importsOfAll_eq ss]
    simp only [importsAt_zero, importsAt_modifyHead]

end

/-- The imports of a program are those of its import statements at any depth, one statement after
the other in the order of the text, each of them once. They are for type checkers exactly at the
places where a guard says so; `else` and `elif` are no part of the main body. A statement that asks
for features of the language itself is read as one without imports. -/
theorem imports_in_order (program : List Statement) :
    ∃ places : List (List Nat), places.Pairwise (· < ·) ∧
      (∀ place, place ∈ places ↔ ∃ s, statementAt? program place = some s ∧ s.isImport = true) ∧
      (facts program).imports = places.flatMap fun place =>
        (statementAt? program place).elim [] (·.ownImports (decide (TypeOnlyAt program place))) := by
  refine ⟨importPlacesOfAll program, importPlacesOfAll_ordered program, mem_importPlacesOfAll_iff program, ?_⟩
  have decides (place) : guardedAt program place = decide (TypeOnlyAt program place) := by
    rw [Bool.eq_iff_iff, guardedAt_iff, decide_eq_true_iff]
  have at_place (place) : importsAt false program place =
      (statementAt? program place).elim [] (·.ownImports (decide (TypeOnlyAt program place))) := by
    rw [importsAt, Bool.false_or, decides]
  rw [facts, importsOfAll_eq]
  exact congrArg (List.flatMap · (importPlacesOfAll program)) (funext at_place)

end Interlink.Offside
