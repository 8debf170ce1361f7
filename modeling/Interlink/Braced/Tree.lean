import Interlink.Fact

/-!
# Syntax trees of TypeScript and JavaScript

A tree keeps what imports, exports and bindings are read from; every other construct is a `group` of
the constructs inside it, in source order.
-/

namespace Interlink.Braced

inductive Closure where
  | arrow
  | function
  | generator
  | «class»
deriving DecidableEq

/-- One name of an import or export list; `alias?` is what follows `as`. Strings keep their quotes. -/
structure Specifier where
  name : String
  alias? : Option String
  typeOnly : Bool
  line : Nat

structure ImportClause where
  default : Bool
  whole : Bool
  named : List Specifier

/-- What an export list names: given names, or the whole of a module, which may get a name. -/
inductive ExportClause where
  | named (specifiers : List Specifier)
  | whole
  | wholeAs (name : String) (line : Nat)

inductive Tree where
  | identifier (name : String)
  | shorthand (name : String)
  | property (key value : Tree)
  | objectPattern (parts : List Tree)
  | arrayPattern (parts : List Tree)
  /-- A pattern with the value that it takes when nothing else is there. -/
  | defaulted (pattern value : Tree)
  | remainder (pattern : Tree)
  | string (raw : String)
  | importer
  | call (line : Nat) (callee : Tree) (types arguments : List Tree)
  /-- `name?` is among the `parts` if it is bound like a variable. -/
  | closure (kind : Closure) (name? : Option String) (parts : List Tree)
  | declarator (line : Nat) (pattern annotation : Tree) (value? : Option Tree)
  | variables (declarators : List Tree)
  /-- A declaration that gives something one name, which is among the `parts` if it is bound like a
  variable. -/
  | declaration (line : Nat) (kind : ExportKind) (name : String) (parts : List Tree)
  | ambient (declared : Tree)
  | importing (line : Nat) (typeOnly : Bool) (clause? : Option ImportClause) (source : String)
  /-- An export list, with the module that it takes the names from. -/
  | reexport (line : Nat) (typeOnly : Bool) (clause : ExportClause) (source? : Option String)
  | exportDeclaration (default : Bool) (decorators : List Tree) (declared : Tree)
  | exportValue (line : Nat) (decorators : List Tree) (value : Tree)
  | group (parts : List Tree)

instance : Inhabited Tree := ⟨.group []⟩

end Interlink.Braced
