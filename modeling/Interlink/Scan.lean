import Interlink.Config
import Interlink.LanguageSet
import Interlink.SourceFile
import Interlink.Table

/-!
# Scans

The files of a project, sorted into documents, source files with their facts, and the rest.
-/

namespace Interlink

structure ScannedFile where
  path : String
  content : Except String String

structure DocFile where
  path : String
  content : String
deriving DecidableEq, Repr

structure ScanFailure where
  path : String
  message : String
deriving DecidableEq, Repr

def ScanFailure.finding (f : ScanFailure) : Finding :=
  ⟨.extractionFailure, .warning, "could not extract " ++ f.path ++ ": " ++ f.message, [.ofFile f.path]⟩

/-- The cause of a failure to read a file, which does not repeat the file's path. -/
def Failure.cause : Failure → String
  | .extraction _ message => message
  | e => e.message

inductive FileClass where
  | doc (content : String)
  | unreadable
  | source (language : String) (facts : Except String FileFacts)
  | other

structure Scan where
  /-- In the order of their paths. -/
  sources : List SourceFile := []
  facts : Table FileFacts := .empty
  docs : List DocFile := []
  failures : List ScanFailure := []
  skipped : Nat := 0

namespace Scan

/-- The facts that a language reads in a file, or the cause why there are none. -/
def factsOf (l : Language) (f : ScannedFile) : Except String FileFacts :=
  match f.content with
  | .ok text => (l.extract f.path text).mapError Failure.cause
  | .error message => .error message

def classOf (config : ScanConfig) (languages : LanguageSet) (f : ScannedFile) : FileClass :=
  if config.isDoc f.path then
    match f.content with
    | .ok text => .doc text
    | .error _ => .unreadable
  else
    match languages.ofPath? f.path with
    | some l => .source l.name (factsOf l f)
    | none => .other

def record (s : Scan) (path : String) : FileClass → Scan
  | .doc content => { s with docs := s.docs ++ [(⟨path, content⟩ : DocFile)] }
  | .unreadable => s
  | .other => { s with skipped := s.skipped + 1 }
  | .source language outcome =>
    let s := { s with sources := s.sources ++ [(⟨path, language, FileRole.ofPath path⟩ : SourceFile)] }
    match outcome with
    | .ok facts => { s with facts := s.facts.insert path facts }
    | .error message => { s with failures := s.failures ++ [(⟨path, message⟩ : ScanFailure)] }

def step (config : ScanConfig) (languages : LanguageSet) (s : Scan) (f : ScannedFile) : Scan :=
  s.record f.path (classOf config languages f)

def classify (config : ScanConfig) (languages : LanguageSet) (files : List ScannedFile) : Scan :=
  (files.mergeSort fun a b => a.path ≤ b.path).foldl (step config languages) {}

def ofTexts (config : ScanConfig) (languages : LanguageSet) (texts : List (String × String)) : Scan :=
  classify config languages
    ((texts.filter fun t => !config.isExcluded t.1).map fun t => ⟨t.1, .ok t.2⟩)

/-- The source file of a path among files in the order of their paths, by halving. -/
def bisect (path : String) (files : List SourceFile) : Option SourceFile :=
  match h : files.drop (files.length / 2) with
  | [] => none
  | file :: later =>
    if file.path = path then some file
    else if file.path < path then bisect path later
    else bisect path (files.take (files.length / 2))
termination_by files.length
decreasing_by
  all_goals
    have split := congrArg List.length h
    simp only [List.length_drop, List.length_cons] at split
  · omega
  · rw [List.length_take]
    omega

def source? (s : Scan) (path : String) : Option SourceFile := bisect path s.sources

def importCount (s : Scan) : Nat := s.facts.total (·.imports.length)

def exportCount (s : Scan) : Nat := s.facts.total (·.exports.length)

def findings (s : Scan) : Report := s.failures.map ScanFailure.finding

end Scan

end Interlink
