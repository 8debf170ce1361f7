import Interlink.Braced.Facts
import Interlink.Braced.Statements
import Mathlib

/-!
# Names that a pattern binds

The names found in a pattern are those that it binds, each once for each binding and in source order,
and among them the names that stand in its default values and in targets that are no patterns. So
exports and loaded modules have just the names that are bound where there are no such others.
-/

namespace Interlink.Braced

/-! ## Bound names and others -/

mutual

/-- The names that a pattern binds, each once for each binding and in source order. -/
def Tree.bound : Tree → List String
  | .identifier name => [name]
  | .shorthand name => [name]
  | .property _ value => value.bound
  | .objectPattern parts => boundOfAll parts
  | .arrayPattern parts => boundOfAll parts
  | .defaulted pattern _ => pattern.bound
  | .remainder pattern => pattern.bound
  | _ => []

def boundOfAll : List Tree → List String
  | [] => []
  | t :: ts => t.bound ++ boundOfAll ts

end

mutual

/-- The names in the default values of a pattern, and in its targets that are no patterns. -/
def Tree.asides : Tree → List String
  | .identifier _ => []
  | .shorthand _ => []
  | .property _ value => value.asides
  | .objectPattern parts => asidesOfAll parts
  | .arrayPattern parts => asidesOfAll parts
  | .defaulted pattern value => pattern.asides ++ value.names
  | .remainder pattern => pattern.asides
  | other => other.names

def asidesOfAll : List Tree → List String
  | [] => []
  | t :: ts => t.asides ++ asidesOfAll ts

end

/-- All of `bound` in its order, with `others` in between. -/
structure IsMix (found bound others : List String) : Prop where
  sublist : bound.Sublist found
  perm : found.Perm (bound ++ others)

namespace IsMix
variable {found found' bound bound' others others' : List String}

theorem of_bound (names : List String) : IsMix names names [] :=
  ⟨.refl names, by rw [List.append_nil]⟩

theorem of_others (names : List String) : IsMix names [] names :=
  ⟨List.nil_sublist names, .refl names⟩

theorem append (h : IsMix found bound others) (h' : IsMix found' bound' others') :
    IsMix (found ++ found') (bound ++ bound') (others ++ others') := by
  refine ⟨h.sublist.append h'.sublist, (h.perm.append h'.perm).trans ?_⟩
  rw [List.append_assoc, List.append_assoc]
  refine List.Perm.append_left bound ?_
  rw [← List.append_assoc, ← List.append_assoc]
  exact List.Perm.append_right others' List.perm_append_comm

theorem eq_iff (h : IsMix found bound others) : found = bound ↔ others = [] := by
  have size : found.length = bound.length + others.length := by rw [h.perm.length_eq, List.length_append]
  constructor
  · rintro rfl
    exact List.eq_nil_of_length_eq_zero (by omega)
  · rintro rfl
    exact (h.sublist.eq_of_length_le (by simp [size])).symm

end IsMix

mutual

theorem Tree.names_mix : ∀ t : Tree, IsMix t.names t.bound t.asides
  | .identifier name => .of_bound [name]
  | .shorthand name => .of_bound [name]
  | .property _ value => value.names_mix
  | .objectPattern parts => namesOfAll_mix parts
  | .arrayPattern parts => namesOfAll_mix parts
  | .defaulted pattern value => by
    have h := pattern.names_mix.append (.of_others value.names)
    rwa [List.append_nil] at h
  | .remainder pattern => pattern.names_mix
  | .string _ | .importer | .call .. | .closure .. | .declarator .. | .variables _ | .declaration .. | .ambient _
  | .importing .. | .reexport .. | .exportDeclaration .. | .exportValue .. | .group _ => .of_others _

theorem namesOfAll_mix : ∀ ts : List Tree, IsMix (namesOfAll ts) (boundOfAll ts) (asidesOfAll ts)
  | [] => .of_bound []
  | t :: ts => t.names_mix.append (namesOfAll_mix ts)

end

/-! ## Exports of variables -/

def Tree.pattern? : Tree → Option Tree
  | .declarator _ pattern _ _ => some pattern
  | _ => none

def Tree.patterns? : Tree → Option (List Tree)
  | .variables declarators => some (declarators.filterMap Tree.pattern?)
  | .ambient declared => declared.patterns?
  | _ => none

def Tree.exportedPatterns? : Tree → Option (List Tree)
  | .exportDeclaration _ _ declared => declared.patterns?
  | _ => none

/-- A statement that exports variables exports the names that their patterns bind, and nothing else. -/
def Tree.ExportsBound (statement : Tree) : Prop :=
  ∀ patterns, statement.exportedPatterns? = some patterns → statement.exports.map (·.name) = boundOfAll patterns

theorem names_declaratorExports (default : Bool) (declarators : List Tree) :
    (declarators.flatMap (Tree.declaratorExports default)).map (·.name) =
      namesOfAll (declarators.filterMap Tree.pattern?) := by
  induction declarators with
  | nil => rfl
  | cons t ts ih =>
    rw [List.flatMap_cons, List.map_append, ih]
    cases t with
    | declarator line pattern typed value? =>
      show _ = pattern.names ++ namesOfAll (ts.filterMap Tree.pattern?)
      rw [Tree.declaratorExports, List.map_map]
      exact congrArg (· ++ _) (List.map_id pattern.names)
    | _ => rfl

theorem names_declaredExports {patterns : List Tree} (default : Bool) : ∀ declared : Tree,
    declared.patterns? = some patterns → (declared.declaredExports default).map (·.name) = namesOfAll patterns
  | .variables declarators, h => by
    obtain rfl := Option.some_inj.mp h
    exact names_declaratorExports default declarators
  | .ambient declared, h => names_declaredExports default declared h

theorem names_exports {statement : Tree} {patterns : List Tree} (h : statement.exportedPatterns? = some patterns) :
    statement.exports.map (·.name) = namesOfAll patterns :=
  match statement, h with
  | .exportDeclaration default _ declared, h => names_declaredExports default declared h

theorem exportsBound_iff {statement : Tree} :
    statement.ExportsBound ↔ ∀ patterns, statement.exportedPatterns? = some patterns →
      asidesOfAll patterns = [] := by
  refine forall_congr' fun patterns => forall_congr' fun h => ?_
  rw [names_exports h]
  exact (namesOfAll_mix patterns).eq_iff

/-! ## Destructured modules -/

/-- The parts of the object pattern that a declarator binds to a loaded module, with the number of
those modules that its pattern and its type load before. -/
def Tree.destructuring? : Tree → Option (List Tree × Nat)
  | .declarator _ (.objectPattern parts) typed (some (.call _ callee _ arguments)) =>
    if (loaded? callee arguments).isSome then some (parts, (loadsOfAll parts ++ typed.loads []).length) else none
  | _ => none

def Tree.TakesBound (declarator : Tree) : Prop :=
  ∀ parts k, declarator.destructuring? = some (parts, k) →
    ∃ fact, (declarator.loads [])[k]? = some fact ∧ fact.names = boundOfAll parts

theorem loads_declarator {line callLine : Nat} {parts types arguments : List Tree} {typed callee : Tree}
    {specifier : String} (h : loaded? callee arguments = some specifier) :
    (Tree.declarator line (.objectPattern parts) typed (some (.call callLine callee types arguments))).loads [] =
      (loadsOfAll parts ++ typed.loads []) ++ ⟨specifier, namesOfAll parts, false, callLine⟩ ::
        (callee.loads [] ++ loadsOfAll types ++ loadsOfAll arguments) := by
  rw [Tree.loads, loadsOfOption, Tree.loads, Tree.loads, h]
  rfl

theorem exists_fact_of_destructuring? {declarator : Tree} {parts : List Tree} {k : Nat}
    (h : declarator.destructuring? = some (parts, k)) :
    ∃ fact, (declarator.loads [])[k]? = some fact ∧ fact.names = namesOfAll parts := by
  unfold Tree.destructuring? at h
  split at h
  · rename_i line parts' typed callLine callee types arguments
    split at h
    · rename_i loads
      obtain ⟨rfl, rfl⟩ := Prod.mk.inj (Option.some_inj.mp h)
      obtain ⟨specifier, hs⟩ := Option.isSome_iff_exists.mp loads
      refine ⟨⟨specifier, namesOfAll parts', false, callLine⟩, ?_, rfl⟩
      rw [loads_declarator hs, List.getElem?_append_right (Nat.le_refl _), Nat.sub_self, List.getElem?_cons_zero]
    · cases h
  · cases h

theorem takesBound_iff {declarator : Tree} : declarator.TakesBound ↔
    ∀ parts k, declarator.destructuring? = some (parts, k) → asidesOfAll parts = [] := by
  refine forall_congr' fun parts => forall_congr' fun k => forall_congr' fun h => ?_
  obtain ⟨fact, at', found⟩ := exists_fact_of_destructuring? h
  rw [← (namesOfAll_mix parts).eq_iff, ← found]
  constructor
  · rintro ⟨fact', at'', bound⟩
    obtain rfl := Option.some_inj.mp (at'.symm.trans at'')
    exact bound
  · intro bound
    exact ⟨fact, at', bound⟩

/-- Exports of variables and names taken from a loaded module have all names that the patterns bind,
in their order. They are just these names where no name stands in a default value, and otherwise
those in default values are among them. -/
theorem found_iff_bound (statement declarator : Tree) :
    (∀ patterns, statement.exportedPatterns? = some patterns →
      IsMix (statement.exports.map (·.name)) (boundOfAll patterns) (asidesOfAll patterns)) ∧
    (statement.ExportsBound ↔ ∀ patterns, statement.exportedPatterns? = some patterns →
      asidesOfAll patterns = []) ∧
    (∀ parts k, declarator.destructuring? = some (parts, k) → ∃ fact, (declarator.loads [])[k]? = some fact ∧
      IsMix fact.names (boundOfAll parts) (asidesOfAll parts)) ∧
    (declarator.TakesBound ↔ ∀ parts k, declarator.destructuring? = some (parts, k) → asidesOfAll parts = []) := by
  refine ⟨fun patterns h => ?_, exportsBound_iff, fun parts k h => ?_, takesBound_iff⟩
  · rw [names_exports h]
    exact namesOfAll_mix patterns
  · obtain ⟨fact, at', found⟩ := exists_fact_of_destructuring? h
    exact ⟨fact, at', found ▸ namesOfAll_mix parts⟩

/-- The names in `{ a, k: [b = "", ...rest] }`, exported and taken from a module. -/
theorem found_of_nested :
    let parts := [Tree.shorthand "a", .property (.identifier "k")
      (.arrayPattern [.defaulted (.identifier "b") (.string "\"\""), .remainder (.identifier "rest")])]
    let exported :=
      Tree.exportDeclaration false [] (.variables [.declarator 1 (.objectPattern parts) (.group []) none])
    let load := Tree.call 1 (.identifier "require") [] [.string "\"x\""]
    exported.exports.map (·.name) = ["a", "b", "rest"] ∧
      ∃ fact, ((Tree.declarator 1 (.objectPattern parts) (.group []) (some load)).loads [])[0]? = some fact ∧
        fact.names = ["a", "b", "rest"] := by
  intro parts exported load
  have whole : exported.exportedPatterns? = some [.objectPattern parts] := rfl
  have required :
      (Tree.declarator 1 (.objectPattern parts) (.group []) (some load)).destructuring? = some (parts, 0) := rfl
  obtain ⟨-, exports_iff, -, takes_iff⟩ :=
    found_iff_bound exported (.declarator 1 (.objectPattern parts) (.group []) (some load))
  refine ⟨exports_iff.mpr (fun patterns h => ?_) _ whole, takes_iff.mpr (fun parts' k h => ?_) _ _ required⟩
  · obtain rfl := Option.some_inj.mp (whole.symm.trans h)
    decide
  · obtain ⟨rfl, rfl⟩ := Prod.mk.inj (Option.some_inj.mp (required.symm.trans h))
    decide

/-- The default value of `a` is no variable that the statement declares. -/
theorem not_exportsBound_default : ¬ ∀ program,
    parse? false "export const { a = fallback } = obj;
".toList = some program →
      ∀ statement ∈ program, statement.ExportsBound := by
  intro all_bound
  have read : (parse? false "export const { a = fallback } = obj;
".toList).map (·.map fun statement =>
      (statement.exports.map (·.name), statement.exportedPatterns?.map boundOfAll)) =
        some [(["a", "fallback"], some ["a"])] := by
    decide +kernel
  obtain ⟨program, parsed, e⟩ := Option.map_eq_some_iff.mp read
  obtain ⟨statement, rest, rfl, e, -⟩ := List.map_eq_cons_iff.mp e
  obtain ⟨found, bound⟩ := Prod.mk.inj e
  obtain ⟨patterns, h, bound⟩ := Option.map_eq_some_iff.mp bound
  have same := all_bound _ parsed statement List.mem_cons_self patterns h
  rw [found, bound] at same
  exact absurd same (by decide)

end Interlink.Braced
