import Interlink.Failure
import Interlink.Text.LowerCase

/-!
# Facts of a source file

What a source file imports and exports, as far as a language can tell from its text alone. Facts have
no path of their own: the facts of a file stand in a table under its path, and imports are resolved
against that path. A scan reads the facts of a file under its path, so a path in each import and each
export would always be the one that they stand under.
-/

namespace Interlink

/-- One import: the module as written, the names taken from it, and the line of the statement. No names
stand for the whole module. -/
structure ImportFact where
  specifier : String
  names : List String
  typeOnly : Bool
  line : Nat
deriving DecidableEq, Repr

inductive ExportKind where
  | type
  | «class»
  | function
  | value
deriving DecidableEq, Repr

def ExportKind.all : List ExportKind := [.type, .class, .function, .value]

def ExportKind.name : ExportKind → String
  | .type => "type"
  | .class => "class"
  | .function => "function"
  | .value => "value"

def ExportKind.ofText (s : String) : Except Failure ExportKind :=
  match Text.lowered s with
  | "type" => .ok .type
  | "class" => .ok .class
  | "function" => .ok .function
  | "value" => .ok .value
  | _ => .error (.exportKind s)

structure ExportFact where
  name : String
  kind : ExportKind
  isDefault : Bool
  line : Nat
deriving DecidableEq, Repr

structure FileFacts where
  imports : List ImportFact
  exports : List ExportFact
deriving DecidableEq, Repr

end Interlink
