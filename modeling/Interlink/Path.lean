import Interlink.Text.Cut

/-!
# Paths

Root-relative paths with `/` between their segments. The root itself is the empty path.
-/

namespace Interlink.Path

open Text

def fileName (p : String) : String :=
  match cutLast? '/' p with
  | some (_, name) => name
  | none => p

/-- What follows the last dot of the file name, if something precedes that dot. -/
def extension? (p : String) : Option String :=
  match cutLast? '.' (fileName p) with
  | some (stem, ext) => if stem.isEmpty then none else some ext
  | none => none

/-- The path of the directory; the root for a file right below it. -/
def directory (p : String) : String :=
  match cutLast? '/' p with
  | some (dir, _) => dir
  | none => ""

/-- Follows the segments from a place given by its own segments in reverse; `none` when they climb
above the root. -/
def walk : List String → List String → Option (List String)
  | [], place => some place.reverse
  | segment :: rest, place =>
    if segment = "" ∨ segment = "." then walk rest place
    else if segment = ".." then
      match place with
      | [] => none
      | _ :: above => walk rest above
    else walk rest (segment :: place)

def normalize (p : String) : Option String := (walk (pieces '/' p) []).map (join "/")

def below (dir p : String) : String := if dir.isEmpty then p else dir ++ "/" ++ p

/-- A path seen from a directory. An absolute path stands for itself. -/
def joined (dir p : String) : String :=
  if startsWith p "/" || dir.isEmpty then p else if endsWith dir "/" then dir ++ p else dir ++ "/" ++ p

def isRelative (specifier : String) : Bool :=
  specifier = "." || specifier = ".." || startsWith specifier "./" || startsWith specifier "../" ||
    startsWith specifier "/"

def relativeBase (specifier importer : String) : Option String :=
  match withoutStart? specifier "/" with
  | some rooted => normalize rooted
  | none => if isRelative specifier then normalize (below (directory importer) specifier) else none

def isUnder (p dir : String) : Bool :=
  dir.isEmpty || dir = "." || p = dir || ((withoutStart? p dir).map (startsWith · "/")).getD false

end Interlink.Path
