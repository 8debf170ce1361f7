import Interlink.Braced.Facts
import Interlink.Braced.Statements
import Interlink.Language
import Interlink.Offside.Facts
import Interlink.Offside.Statements

/-!
# The built-in languages
-/

namespace Interlink

open Text

/-- The facts of a syntax tree, or a failure where there is none. -/
def Language.factsOf {α : Type} (facts : α → FileFacts) (path : String) : Option α → Except Failure FileFacts
  | some tree => .ok (facts tree)
  | none => .error (.extraction path "syntax error")

/-- Files in which `<T>` before a value is a type assertion and not an element. -/
def assertionExtensions : List String := ["ts", "mts", "cts"]

def typeScript : Language where
  name := "typescript"
  extensions := ["ts", "tsx", "mts", "cts", "js", "jsx", "mjs", "cjs"]
  extract path text :=
    let markup := !(Path.extension? path).any assertionExtensions.contains
    Language.factsOf Braced.facts path (Braced.parse? markup text.toList)

namespace Offside

/-- The number of dots that a module's name begins with, and the path that the rest of it spells. -/
def splitModule (specifier : String) : Nat × String :=
  let dots := specifier.toList.takeWhile (· = '.')
  let name := specifier.toList.dropWhile (· = '.')
  (dots.length, String.ofList (name.map fun c => if c = '.' then '/' else c))

def climb : Nat → String → Option String
  | 0, dir => some dir
  | n + 1, dir => if dir.isEmpty then none else climb n (Path.directory dir)

/-- An absolute module may lie at the root or below `src`; leading dots climb from the importer's
directory, one dot not at all. -/
def bases (specifier importer : String) : List String :=
  let (dots, module) := splitModule specifier
  if dots = 0 then if module.isEmpty then [] else [module, "src/" ++ module]
  else match climb (dots - 1) (Path.directory importer) with
    | none => []
    | some dir =>
      let joined := if dir.isEmpty then module else if module.isEmpty then dir else dir ++ "/" ++ module
      (Path.normalize joined).toList

/-- A name that is imported may be a module below the one that it is imported from. -/
def members (i : ImportFact) (base : String) : List String :=
  (i.names.filter (· ≠ "*")).map (Path.below base)

end Offside

def python : Language where
  name := "python"
  extensions := ["py", "pyi"]
  extract path text := Language.factsOf Offside.facts path (Offside.parse? text.toList)
  bases := Offside.bases
  isRelative specifier := startsWith specifier "."
  members := Offside.members

def builtIn : List Language := [typeScript, python]

end Interlink
