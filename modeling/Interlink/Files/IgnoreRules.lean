import Interlink.Files.Glob
import Interlink.Text.Blank
import Interlink.Text.Lines

/-!
# Ignore rules

Which paths a file of ignore rules leaves out. Of the rules that fit a path the last one decides.
-/

namespace Interlink

open Text

inductive Verdict where
  | ignored
  | kept
deriving DecidableEq, Repr

structure IgnoreRule where
  verdict : Verdict
  onlyDirectories : Bool
  glob : Glob

namespace IgnoreRule

/-- The pattern for a text, which may fit in any directory unless it holds a slash or is `anchored`. -/
def globOf? (anchored : Bool) (s : List Char) : Option Glob :=
  let free := !anchored && !s.contains '/' && s ≠ ['*', '*']
  let s := if free then ['*', '*', '/'] ++ s else s
  -- what ends in two stars means what is inside a directory, but not the directory
  Glob.ofText? (if ['/', '*', '*'].isSuffixOf s then s ++ ['/', '*'] else s)

/-- The line without the slash at its end, and whether it had one, which stands for directories. -/
def directoryMark (s : List Char) : List Char × Bool :=
  if s.getLast? = some '/' then
    let s := s.dropLast
    (if s.getLast? = some '\\' then s.dropLast else s, true)
  else (s, false)

def ofPattern? (verdict : Verdict) (anchored : Bool) (s : List Char) : Option IgnoreRule :=
  let (s, onlyDirectories) := directoryMark s
  (globOf? anchored s).map fun glob => ⟨verdict, onlyDirectories, glob⟩

/-- The rule of a line: none for a comment, for a line without words and for a pattern that is none. -/
def ofLine? (line : List Char) : Option IgnoreRule :=
  let line := if ['\\', ' '].isSuffixOf line then line else trimEnd line
  match line with
  | [] => none
  | '#' :: _ => none
  | '\\' :: '!' :: rest => ofPattern? .ignored false ('!' :: rest)
  | '\\' :: '#' :: rest => ofPattern? .ignored false ('#' :: rest)
  | '!' :: '/' :: rest => ofPattern? .kept true rest
  | '!' :: rest => ofPattern? .kept false rest
  | '/' :: rest => ofPattern? .ignored true rest
  | _ => ofPattern? .ignored false line

end IgnoreRule

namespace IgnoreRules

def ofText (s : String) : List IgnoreRule :=
  (lines (s.toList.dropWhile (· = '\uFEFF'))).filterMap IgnoreRule.ofLine?

def verdict? (rules : List IgnoreRule) (path : String) (isDirectory : Bool) : Option Verdict :=
  (rules.reverse.find? fun r => (isDirectory || !r.onlyDirectories) && r.glob.accepts path).map (·.verdict)

end IgnoreRules

end Interlink
