import Interlink.Failure
import Interlink.Path
import Interlink.Table

/-!
# File trees

Files and directories with all that is in them. A place is a path without `.` and `..` from the top down; the
top is the empty path.
-/

namespace Interlink

open Text

structure FileTree where
  files : Table ByteArray := .empty
  directories : KeySet := .empty

namespace Path

/-- The place that a path means, seen from an absolute path. Nothing is above the top. -/
def place (base path : String) : String :=
  join "/" (go (pieces '/' (joined base path)) [])
where
  go : List String → List String → List String
    | [], below => below.reverse
    | segment :: rest, below =>
      if segment = "" ∨ segment = "." then go rest below
      else if segment = ".." then go rest below.tail
      else go rest (segment :: below)

def isForDirectory (path : String) : Bool :=
  match (pieces '/' path).getLast? with
  | some last => last = "" || last = "." || last = ".."
  | none => false

/-- The place itself and all places above it but the top, the topmost first. -/
def steps (p : String) : List String :=
  let segments := if p.isEmpty then [] else pieces '/' p
  (List.range segments.length).map fun n => join "/" (segments.take (n + 1))

def enclosing (p : String) : List String := ("" :: (steps p).dropLast).reverse

def fromDirectory (dir p : String) : String := if dir.isEmpty then p else (withoutStart? p (dir ++ "/")).getD p

end Path

namespace FileTree

def isFile (t : FileTree) (p : String) : Bool := t.files.contains p

def isDirectory (t : FileTree) (p : String) : Bool := p.isEmpty || p ∈ t.directories

def isThere (t : FileTree) (p : String) : Bool := t.isFile p || t.isDirectory p

/-- The content at a place, where there is something. Only files can be read. -/
def read (t : FileTree) (p : String) : Except Failure (Option ByteArray) :=
  match t.files.find? p with
  | some content => .ok content
  | none => if t.isDirectory p || (Path.enclosing p).any t.isFile then .error .io else .ok none

def readText (t : FileTree) (p : String) : Except Failure (Option String) := do
  match ← t.read p with
  | none => return none
  | some content =>
    match String.fromUTF8? content with
    | some s => return some s
    | none => throw .io

def write (t : FileTree) (p : String) (content : ByteArray) : Except Failure FileTree :=
  if t.isDirectory p || (Path.enclosing p).any t.isFile then .error .io
  else .ok {
    files := t.files.insert p content
    directories := t.directories.union (.ofList (Path.steps p).dropLast) }

def remove (t : FileTree) (p : String) : FileTree :=
  let stays (q : String) : Bool := q ≠ p && !startsWith q (p ++ "/")
  { files := t.files.filter fun q _ => stays q, directories := t.directories.filter stays }

def names (t : FileTree) (p : String) : KeySet :=
  .ofList ((t.files.keys ++ t.directories.toList).filterMap fun q =>
    if q ≠ "" ∧ Path.directory q = p then some (Path.fileName q) else none)

def filesIn (t : FileTree) (p : String) : List (String × ByteArray) :=
  t.files.toList.filter fun e => p.isEmpty || startsWith e.1 (p ++ "/")

end FileTree

end Interlink
