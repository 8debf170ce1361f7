import Interlink.Braced.Tree
import Interlink.Text.Quotes

/-!
# Imports and exports of TypeScript and JavaScript

Import statements count at the top level only; a call of `require` or `import` with a string as its first
argument counts wherever it stands.
-/

namespace Interlink.Braced

open Text (unquote)

/-! ## Names in patterns -/

mutual

def Tree.names : Tree → List String
  | .identifier name => [name]
  | .shorthand name => [name]
  | .property _ value => value.names
  | .objectPattern parts => namesOfAll parts
  | .arrayPattern parts => namesOfAll parts
  | .defaulted pattern value => pattern.names ++ value.names
  | .remainder pattern => pattern.names
  | .call _ callee types arguments => callee.names ++ namesOfAll types ++ namesOfAll arguments
  | .closure _ _ parts => namesOfAll parts
  | .declarator _ pattern annotation value? => pattern.names ++ annotation.names ++ namesOfOption value?
  | .variables declarators => namesOfAll declarators
  | .declaration _ _ _ parts => namesOfAll parts
  | .ambient declared => declared.names
  | .exportDeclaration _ decorators declared => namesOfAll decorators ++ declared.names
  | .exportValue _ decorators value => namesOfAll decorators ++ value.names
  | .group parts => namesOfAll parts
  | .string _ | .importer | .importing .. | .reexport .. => []

def namesOfAll : List Tree → List String
  | [] => []
  | t :: ts => t.names ++ namesOfAll ts

def namesOfOption : Option Tree → List String
  | none => []
  | some t => t.names

end

/-! ## Calls that load a module -/

def loaded? (callee : Tree) (arguments : List Tree) : Option String :=
  match callee, arguments with
  | .importer, .string raw :: _ => some (unquote raw)
  | .identifier "require", .string raw :: _ => some (unquote raw)
  | _, _ => none

def Tree.taken : Tree → List String
  | .objectPattern parts => namesOfAll parts
  | _ => []

mutual

/-- The modules loaded by calls inside a tree, in source order. `taken` are the names bound to the
tree's own value. -/
def Tree.loads (taken : List String) : Tree → List ImportFact
  | .call line callee types arguments =>
    (loaded? callee arguments).toList.map (⟨·, taken, false, line⟩) ++
      (callee.loads [] ++ loadsOfAll types ++ loadsOfAll arguments)
  | .declarator _ pattern annotation value? =>
    pattern.loads [] ++ annotation.loads [] ++ loadsOfOption pattern.taken value?
  | .property key value => key.loads [] ++ value.loads []
  | .objectPattern parts => loadsOfAll parts
  | .arrayPattern parts => loadsOfAll parts
  | .defaulted pattern value => pattern.loads [] ++ value.loads []
  | .remainder pattern => pattern.loads []
  | .closure _ _ parts => loadsOfAll parts
  | .variables declarators => loadsOfAll declarators
  | .declaration _ _ _ parts => loadsOfAll parts
  | .ambient declared => declared.loads []
  | .exportDeclaration _ decorators declared => loadsOfAll decorators ++ declared.loads []
  | .exportValue _ decorators value => loadsOfAll decorators ++ value.loads []
  | .group parts => loadsOfAll parts
  | .identifier _ | .shorthand _ | .string _ | .importer | .importing .. | .reexport .. => []

def loadsOfAll : List Tree → List ImportFact
  | [] => []
  | t :: ts => t.loads [] ++ loadsOfAll ts

def loadsOfOption (taken : List String) : Option Tree → List ImportFact
  | none => []
  | some t => t.loads taken

end

/-! ## Statements -/

def ImportClause.names (c : ImportClause) : List String :=
  (if c.default then ["default"] else []) ++ (if c.whole then ["*"] else []) ++
    c.named.map fun s => unquote s.name

/-- Whether a clause takes types only: it has names, each of them marked, and binds nothing else. -/
def ImportClause.typeOnly (c : ImportClause) : Bool :=
  !c.default && !c.whole && !c.named.isEmpty && c.named.all Specifier.typeOnly

def ExportClause.taken : ExportClause → List String
  | .named specifiers => specifiers.map fun s => unquote s.name
  | .whole | .wholeAs .. => ["*"]

def Tree.import? : Tree → Option ImportFact
  | .importing line typeOnly clause? source =>
    some {
      specifier := unquote source
      names := (clause?.map ImportClause.names).getD []
      typeOnly := typeOnly || (clause?.map ImportClause.typeOnly).getD false
      line }
  | .reexport line typeOnly clause (some source) =>
    some { specifier := unquote source, names := clause.taken, typeOnly, line }
  | _ => none

def Tree.valueKind : Tree → ExportKind
  | .closure .arrow _ _ | .closure .function _ _ => .function
  | .closure .class _ _ => .class
  | _ => .value

def Tree.declaratorExports (default : Bool) : Tree → List ExportFact
  | .declarator line pattern _ value? =>
    pattern.names.map (⟨·, (value?.map Tree.valueKind).getD .value, default, line⟩)
  | _ => []

def Tree.declaredExports (default : Bool) : Tree → List ExportFact
  | .declaration line kind name _ => [⟨unquote name, kind, default, line⟩]
  | .variables declarators => declarators.flatMap (Tree.declaratorExports default)
  | .ambient declared => declared.declaredExports default
  | _ => []

def Tree.defaultName : Tree → String × ExportKind
  | .identifier name => (name, .value)
  | .closure .class name? _ => (name?.getD "default", .class)
  | .closure _ name? _ => (name?.getD "default", .function)
  | _ => ("default", .value)

def ExportClause.exports (typeOnly : Bool) : ExportClause → List ExportFact
  | .named specifiers => specifiers.map fun s =>
    let name := unquote (s.alias?.getD s.name)
    ⟨name, if typeOnly || s.typeOnly then .type else .value, name == "default", s.line⟩
  | .wholeAs name line => [⟨unquote name, .value, false, line⟩]
  | .whole => []

def Tree.exports : Tree → List ExportFact
  | .exportDeclaration default _ declared => declared.declaredExports default
  | .exportValue line _ value => [⟨value.defaultName.1, value.defaultName.2, true, line⟩]
  | .reexport _ typeOnly clause _ => clause.exports typeOnly
  | _ => []

/-- The facts of a file: the imports of its statements, then those of calls, and all exports. -/
def facts (program : List Tree) : FileFacts where
  imports := program.filterMap Tree.import? ++ loadsOfAll program
  exports := program.flatMap Tree.exports

end Interlink.Braced
