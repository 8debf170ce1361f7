import Interlink.Failure
import Interlink.Text.LowerCase

/-!
# Findings

What a validator reports, with its place, and reports as lists of findings.
-/

namespace Interlink

inductive Severity where
  | error
  | warning
deriving DecidableEq, Repr

def Severity.name : Severity → String
  | .error => "error"
  | .warning => "warning"

def Severity.rank : Severity → Nat
  | .error => 0
  | .warning => 1

/-- How a rule reports what it finds; a rule that is off reports nothing. -/
inductive RuleLevel where
  | error
  | warning
  | off
deriving DecidableEq, Repr

namespace RuleLevel

def all : List RuleLevel := [error, warning, off]

def severity? : RuleLevel → Option Severity
  | error => some .error
  | warning => some .warning
  | off => none

def name : RuleLevel → String
  | error => "error"
  | warning => "warning"
  | off => "off"

def ofText (s : String) : Except Failure RuleLevel :=
  match Text.lowered s with
  | "error" => .ok error
  | "warning" => .ok warning
  | "warn" => .ok warning
  | "off" => .ok off
  | _ => .error (.severity s)

end RuleLevel

inductive FindingKind where
  | extractionFailure
  | malformedMetadata
  | termConflict
  | undefinedTerm
  | scopeViolation
  | unusedDefinition
  | circularReference
  /-- A relation of the index without its reverse. -/
  | indexInconsistency
  | missingProvider
  /-- An interface that no other feature uses. -/
  | unconsumedInterface
  | selfReference
  | partialNamespaceCoverage
deriving DecidableEq, Repr

namespace FindingKind

def all : List FindingKind :=
  [extractionFailure, malformedMetadata, termConflict, undefinedTerm, scopeViolation, unusedDefinition,
   circularReference, indexInconsistency, missingProvider, unconsumedInterface, selfReference,
   partialNamespaceCoverage]

def words : FindingKind → List String
  | extractionFailure => ["extraction", "failure"]
  | malformedMetadata => ["malformed", "metadata"]
  | termConflict => ["term", "conflict"]
  | undefinedTerm => ["undefined", "term"]
  | scopeViolation => ["scope", "violation"]
  | unusedDefinition => ["unused", "definition"]
  | circularReference => ["circular", "reference"]
  | indexInconsistency => ["index", "inconsistency"]
  | missingProvider => ["missing", "provider"]
  | unconsumedInterface => ["unconsumed", "interface"]
  | selfReference => ["self", "reference"]
  | partialNamespaceCoverage => ["partial", "namespace", "coverage"]

def name (k : FindingKind) : String := "-".intercalate k.words

def key (k : FindingKind) : String := "_".intercalate k.words

def rank (k : FindingKind) : Nat := all.idxOf k

end FindingKind

structure Location where
  file : String
  line? : Option Nat
deriving DecidableEq, Repr

namespace Location

def ofFile (file : String) : Location := ⟨file, none⟩

def ofLine (file : String) (line : Nat) : Location := ⟨file, some line⟩

def text (l : Location) : String :=
  match l.line? with
  | some n => l.file ++ ":" ++ toString n
  | none => l.file

end Location

structure Finding where
  kind : FindingKind
  severity : Severity
  message : String
  locations : List Location
deriving DecidableEq, Repr

def Finding.text (f : Finding) : String :=
  f.severity.name ++ " [" ++ f.kind.name ++ "] " ++ f.message ++
    String.join (f.locations.map fun l => "\n    at " ++ l.text)

abbrev Report := List Finding

def RuleLevel.report (level : RuleLevel) (kind : FindingKind) (message : String) (locations : List Location) :
    Report :=
  level.severity?.toList.map (⟨kind, ·, message, locations⟩)

namespace Report

def errorCount (r : Report) : Nat := r.countP (·.severity = .error)

def warningCount (r : Report) : Nat := r.countP (·.severity = .warning)

def isOk (r : Report) : Bool := r.errorCount = 0

def ofKind (r : Report) (k : FindingKind) : Report := r.filter (·.kind = k)

def precedes (a b : Finding) : Bool :=
  if a.severity.rank ≠ b.severity.rank then a.severity.rank < b.severity.rank
  else if a.kind.rank ≠ b.kind.rank then a.kind.rank < b.kind.rank
  else a.message ≤ b.message

def sorted (r : Report) : Report := r.mergeSort precedes

end Report

end Interlink
