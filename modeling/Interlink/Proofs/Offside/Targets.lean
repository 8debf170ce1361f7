import Interlink.Offside.Facts
import Interlink.Offside.Statements
import Interlink.Proofs.Braced.Bindings
import Interlink.Proofs.Offside.Exports

/-!
# Names that an assignment binds

An assignment gives its value to each target of its chain, and so to every name in the targets,
below a star or not. Its bindings leave out the names below stars. They are the names that the
assignment binds where there are none below a star.
-/

namespace Interlink.Offside

open Braced (IsMix)

/-! ## Targets -/

mutual

/-- The names that get a value where the target does. -/
def Target.bound : Target → List String
  | .name name => [name]
  | .sequence targets => boundOfAll targets
  | .starred target => target.bound
  | .access => []

def boundOfAll : List Target → List String
  | [] => []
  | t :: ts => t.bound ++ boundOfAll ts

end

mutual

def Target.starredNames : Target → List String
  | .name _ => []
  | .sequence targets => starredOfAll targets
  | .starred target => target.bound
  | .access => []

def starredOfAll : List Target → List String
  | [] => []
  | t :: ts => t.starredNames ++ starredOfAll ts

end

mutual

theorem Target.bound_mix : ∀ t : Target, IsMix t.bound t.names t.starredNames
  | .name name => .of_bound [name]
  | .sequence targets => boundOfAll_mix targets
  | .starred target => .of_others target.bound
  | .access => .of_bound []

theorem boundOfAll_mix : ∀ ts : List Target, IsMix (boundOfAll ts) (namesOfAll ts) (starredOfAll ts)
  | [] => .of_bound []
  | t :: ts => t.bound_mix.append (boundOfAll_mix ts)

end

/-! ## Chains -/

/-- The names that an assignment binds. An annotation without a value binds none. -/
def assignedNames (target : Target) (right : Right) : List String :=
  if right.last?.isSome then boundOfAll (targetsOf target right) else []

def Statement.BindsAssigned : Statement → Prop
  | .assignment line target right => (targetsOf target right).any Target.isExportList = false →
    (assignmentBindings line target right).map (·.name) = assignedNames target right
  | _ => True

theorem names_assignmentBindings {target : Target} {right : Right} (line : Nat)
    (other : (targetsOf target right).any Target.isExportList = false) :
    (assignmentBindings line target right).map (·.name) = namesOfAll (targetsOf target right) := by
  induction right generalizing line target with
  | absent =>
    have ht : target.isExportList = false := by simpa [targetsOf] using other
    simp [assignmentBindings, targetsOf, namesOfAll, ht, Function.comp_def]
  | value e =>
    have ht : target.isExportList = false := by simpa [targetsOf] using other
    simp [assignmentBindings, targetsOf, namesOfAll, ht, Function.comp_def]
  | assignment line' target' right ih =>
    rw [targetsOf, List.any_cons, Bool.or_eq_false_iff] at other
    rw [assignmentBindings, if_neg (by simp [other.1]), List.map_append, ih line' other.2, targetsOf, namesOfAll]
    simp [Function.comp_def]

/-- The bindings of an assignment are those of the names in its targets that do not stand below a
star, in source order. So they are the names that an assignment of a value binds just in case none
stands below a star; and an annotation without a value, which binds nothing, has the names of its
target for bindings all the same. -/
theorem names_bindings_iff_bound (line : Nat) {target : Target} {right : Right}
    (other : (targetsOf target right).any Target.isExportList = false) :
    let statement := Statement.assignment line target right
    let names := statement.bindings.map (·.name)
    let targets := targetsOf target right
    IsMix (boundOfAll targets) names (starredOfAll targets) ∧
    (right.last?.isSome = true → (statement.BindsAssigned ↔ starredOfAll targets = [])) ∧
    (right.last? = none → (statement.BindsAssigned ↔ names = [])) := by
  intro statement names targets
  have names_eq : names = namesOfAll targets := names_assignmentBindings line other
  have mix : IsMix (boundOfAll targets) names (starredOfAll targets) := names_eq ▸ boundOfAll_mix targets
  have binds_iff : statement.BindsAssigned ↔ names = assignedNames target right :=
    ⟨fun h => h other, fun h _ => h⟩
  refine ⟨mix, fun value => ?_, fun bare => ?_⟩
  · have assigned : assignedNames target right = boundOfAll targets := by
      unfold assignedNames
      rw [if_pos value]
    rw [binds_iff, assigned, eq_comm]
    exact mix.eq_iff
  · have assigned : assignedNames target right = [] := by simp [assignedNames, bare]
    rw [binds_iff, assigned]

/-- In `a, (x.y, [b]) = x[0] = c = value` no name stands below a star. -/
theorem names_bindings_iff_bound_nested :
    let target := Target.sequence [.name "a", .sequence [.access, .sequence [.name "b"]]]
    let right := Right.assignment 1 .access (.assignment 1 (.name "c") (.value (.compound [])))
    (targetsOf target right).any Target.isExportList = false ∧
      (Statement.assignment 1 target right).BindsAssigned ∧ assignedNames target right = ["a", "b", "c"] := by
  intro target right
  have other : (targetsOf target right).any Target.isExportList = false := by decide
  have no_star : starredOfAll (targetsOf target right) = [] := by decide
  exact ⟨other, ((names_bindings_iff_bound 1 other).2.1 rfl).mpr no_star, by decide⟩

/-- The name below the star is bound, but no binding has it. -/
theorem not_bindsAssigned_starred : ¬ ∀ program,
    parse? "a, *rest = xs
".toList = some program → ∀ statement ∈ program, statement.BindsAssigned := by
  intro all_bound
  have read : (parse? "a, *rest = xs
".toList).map (·.map fun
      | .assignment line target right => some ((targetsOf target right).any Target.isExportList,
          (assignmentBindings line target right).map (·.name), assignedNames target right)
      | _ => none) = some [some (false, ["a"], ["a", "rest"])] := by
    decide +kernel
  obtain ⟨program, parsed, e⟩ := Option.map_eq_some_iff.mp read
  obtain ⟨statement, rest, rfl, e, -⟩ := List.map_eq_cons_iff.mp e
  have same := all_bound _ parsed statement List.mem_cons_self
  cases statement with
  | assignment line target right =>
    obtain ⟨other, e⟩ := Prod.mk.inj (Option.some_inj.mp e)
    obtain ⟨names, bound⟩ := Prod.mk.inj e
    have same := same other
    rw [names, bound] at same
    exact absurd same (by decide)
  | _ => cases e

end Interlink.Offside
