import Interlink.KeySet
import Interlink.Languages
import Interlink.Table

/-!
# Sets of languages

The languages that a project is read with. A later one takes over the extensions of earlier ones.
-/

namespace Interlink

structure LanguageSet where
  /-- From the first added to the last. -/
  languages : List Language := []
  /-- Where in the list the language stands that an extension belongs to. -/
  owners : Table Nat := .empty

namespace LanguageSet

def size (s : LanguageSet) : Nat := s.languages.length

def add (l : Language) (s : LanguageSet) : LanguageSet where
  languages := s.languages ++ [l]
  owners := l.extensions.foldl (fun owners ext => owners.insert ext s.size) s.owners

def ofList (ls : List Language) : LanguageSet := ls.foldl (fun s l => s.add l) {}

def standard : LanguageSet := ofList builtIn

def extensions (s : LanguageSet) : KeySet := s.owners.keySet

def ofExtension? (s : LanguageSet) (ext : String) : Option Language := (s.owners.find? ext).bind (s.languages[·]?)

/-- The language that reads a path: the owner of its extension, or else the last one that handles it. -/
def ofPath? (s : LanguageSet) (path : String) : Option Language :=
  match ((Path.extension? path).bind s.ofExtension?).filter (·.handles path) with
  | some l => some l
  | none => s.languages.reverse.find? (·.handles path)

def named? (s : LanguageSet) (name : String) : Option Language := s.languages.reverse.find? (·.name = name)

def extract? (s : LanguageSet) (path text : String) : Option (Except Failure FileFacts) :=
  (s.ofPath? path).map fun l => l.extract path text

end LanguageSet

end Interlink
