import Interlink.Files.FileTree
import Interlink.Files.IgnoreRules

/-!
# Walks

The files of a directory that are neither hidden nor ignored. Rules come from every directory that a file is
in, also from those above the one that is walked.
-/

namespace Interlink.FileTree

open Text

/-- The files of ignore rules. Those of one name go before those of the next, wherever they are. -/
def ruleFiles : List String := [".ignore", ".gitignore", ".git/info/exclude"]

/-- The longest part of some octets that is text and made of whole lines. -/
def textOf (content : ByteArray) : String :=
  match String.fromUTF8? content with
  | some s => s
  | none =>
    let ends := (List.range content.size).filter fun i => content[i]? = some 10
    (ends.reverse.findSome? fun i => String.fromUTF8? (content.extract 0 (i + 1))).getD ""

/-- The directory that the rules in a file are for, if the file has the name of one with rules. -/
def ruledBy? (name p : String) : Option String := if p = name then some "" else withoutEnd? p ("/" ++ name)

def rules (t : FileTree) (name : String) : Table (List IgnoreRule) :=
  .ofList (t.files.toList.filterMap fun (p, content) =>
    (ruledBy? name p).map fun dir => (dir, IgnoreRules.ofText (textOf content)))

def verdict? (rules : Table (List IgnoreRule)) (isDirectory : Bool) (p : String) : Option Verdict :=
  (Path.enclosing p).findSome? fun dir =>
    (rules.find? dir).bind fun rs => IgnoreRules.verdict? rs (Path.fromDirectory dir p) isDirectory

/-- Whether a walk passes a place over. A place of which no rule says anything is passed over if
it is hidden. -/
def isSkipped (rules : List (Table (List IgnoreRule))) (isDirectory : Bool) (p : String) : Bool :=
  match rules.findSome? (verdict? · isDirectory p) with
  | some .ignored => true
  | some .kept => false
  | none => startsWith (Path.fileName p) "."

/-- The files that a walk through a directory comes to, seen from there: no step on the way is skipped. -/
def walk (t : FileTree) (dir : String) : List (String × ByteArray) :=
  let rules := ruleFiles.map t.rules
  ((t.filesIn dir).map fun (p, content) => (Path.fromDirectory dir p, content)).filter fun (way, _) =>
    (Path.steps way).all fun step => !isSkipped rules (step ≠ way) (Path.below dir step)

end Interlink.FileTree
