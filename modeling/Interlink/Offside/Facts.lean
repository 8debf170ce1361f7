import Interlink.Offside.Tree
import Interlink.Text.Blank
import Interlink.Text.Quotes

/-!
# Imports and exports of Python

Import statements count wherever they stand. Whatever the top level binds is exported: all names that
do not begin with an underscore, or the names that `__all__` lists.
-/

namespace Interlink.Offside

/-! ## Imports -/

def guardsTypes (condition : String) : Bool :=
  ["TYPE_CHECKING", "typing.TYPE_CHECKING"].contains (Text.trimmed condition)

mutual

/-- The imports of a statement, in order; `typeOnly` where it stands in a block for type checkers. -/
def Statement.imports (typeOnly : Bool) : Statement → List ImportFact
  | .importing line modules => modules.map (⟨·, [], typeOnly, line⟩)
  | .importingFrom line module names => [⟨module, names, typeOnly, line⟩]
  | .conditional condition body alternatives =>
    importsOfAll (typeOnly || guardsTypes condition) body ++ importsOfAll typeOnly alternatives
  | .definition _ _ _ body => importsOfAll typeOnly body
  | .decorated d => d.imports typeOnly
  | .group body => importsOfAll typeOnly body
  | .assignment .. | .augmented .. => []

def importsOfAll (typeOnly : Bool) : List Statement → List ImportFact
  | [] => []
  | s :: ss => s.imports typeOnly ++ importsOfAll typeOnly ss

end

/-! ## Bindings -/

mutual

/-- The names among the targets of an assignment; a starred target is not one. -/
def Target.names : Target → List String
  | .name name => [name]
  | .sequence targets => namesOfAll targets
  | .starred _ | .access => []

def namesOfAll : List Target → List String
  | [] => []
  | t :: ts => t.names ++ namesOfAll ts

end

def Target.isExportList : Target → Bool
  | .name "__all__" => true
  | _ => false

/-- What an assignment and those to its right bind, up to one to the list of exported names. -/
def assignmentBindings (line : Nat) (target : Target) (right : Right) : List ExportFact :=
  if target.isExportList then []
  else target.names.map (⟨·, .value, false, line⟩) ++
    match right with
    | .assignment line' target' right' => assignmentBindings line' target' right'
    | .absent | .value _ => []

def Statement.bindings : Statement → List ExportFact
  | .definition line kind name _ => [⟨name, kind, false, line⟩]
  | .decorated d => d.bindings
  | .assignment line target right => assignmentBindings line target right
  | .importing .. | .importingFrom .. | .conditional .. | .augmented .. | .group _ => []

/-! ## The list of exported names -/

def Expr.string? : Expr → Option String
  | .string raw => some (Text.unquote raw)
  | .compound _ => none

def Expr.strings : Expr → List String
  | .string _ => []
  | .compound parts => parts.filterMap Expr.string?

def Right.strings : Right → List String
  | .absent => []
  | .value e => e.strings
  | .assignment _ _ (.value e) => e.string?.toList
  | .assignment .. => []

def assignedList (listed? : Option (List String)) (target : Target) (right : Right) : Option (List String) :=
  match target.isExportList, right with
  | true, .absent => listed?
  | true, right => some right.strings
  | false, .assignment _ target' right' => assignedList listed? target' right'
  | false, _ => listed?

def Statement.exportList (listed? : Option (List String)) : Statement → Option (List String)
  | .decorated d => d.exportList listed?
  | .assignment _ target right => assignedList listed? target right
  | .augmented target right => if target.isExportList then some (listed?.getD [] ++ right.strings) else listed?
  | _ => listed?

/-! ## Facts -/

def firstOfEach : List ExportFact → List ExportFact
  | [] => []
  | e :: es => e :: (firstOfEach es).filter (·.name ≠ e.name)

def isExported (listed? : Option (List String)) (name : String) : Bool :=
  match listed? with
  | some names => names.contains name
  | none => name.toList.head? ≠ some '_'

def facts (program : List Statement) : FileFacts where
  imports := importsOfAll false program
  exports :=
    let listed? := program.foldl Statement.exportList none
    firstOfEach ((program.flatMap Statement.bindings).filter fun e => isExported listed? e.name)

end Interlink.Offside
