import Interlink.Path

/-!
# Source files

The part that a file plays is read off its path.
-/

namespace Interlink

open Text

inductive FileRole where
  | source
  | test
  | config
deriving DecidableEq, Repr

namespace FileRole

def all : List FileRole := [source, test, config]

def name : FileRole → String
  | source => "source"
  | test => "test"
  | config => "config"

def testSegments : List String := ["test", "tests", "__tests__", "spec"]

def ofPath (p : String) : FileRole :=
  let file := Path.fileName p
  if (pieces '/' p).any testSegments.contains || includes file ".test." || includes file ".spec." ||
      (startsWith file "test_" && endsWith file ".py") || endsWith file "_test.py" then test
  else if includes file ".config." || file = "conftest.py" || file = "setup.py" then config
  else source

end FileRole

structure SourceFile where
  path : String
  language : String
  role : FileRole
deriving DecidableEq, Repr

end Interlink
