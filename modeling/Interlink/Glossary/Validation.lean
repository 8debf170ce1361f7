import Interlink.Config
import Interlink.Glossary.Cycles
import Interlink.Glossary.Registry

/-!
# Validation of terms

What each reference means, and what the rules find: terms claimed twice, references and relations without
a visible term, relations that run in circles, and terms that nothing refers to. A rule's level decides
how its findings are reported and nothing else.
-/

namespace Interlink.Glossary

open Text

/-! ## References -/

structure Mention where
  reference : Reference
  meaning : Registry.Meaning
deriving DecidableEq, Repr

def Mention.location (m : Mention) : Location := .ofLine m.reference.file m.reference.line

def Registry.mention (r : Registry) (x : Reference) : Mention :=
  let meaning := r.meaning x.text x.file
  match meaning.term? with
  | some t => ⟨{ x with canonical? := some t.name }, meaning⟩
  | none => ⟨x, meaning⟩

def usesOf (mentions : List Mention) (t : Term) : List Reference :=
  (mentions.filter fun m => m.meaning.term? = some t).map (·.reference)

/-! ## Relations -/

def Registry.relatedTo (r : Registry) (t : Term) : List Term :=
  (t.definition.related.filterMap fun name =>
    match r.meaning name t.definition.file with
    | .visible other => some other
    | _ => none).eraseDups

def Term.rankKey (t : Term) : String := lowered t.name

def rotated (cycle : List Term) : List Term :=
  let isLeast (t : Term) : Bool := cycle.all fun u => t.rankKey ≤ u.rankKey
  cycle.dropWhile (!isLeast ·) ++ cycle.takeWhile (!isLeast ·)

/-- The circles in which relations run, each once and in the order of their names. -/
def Registry.cycles (r : Registry) : List (List Term) :=
  (((closedCycles r.terms r.relatedTo).map rotated).eraseDups).mergeSort fun a b =>
    listPrecedes (a.map Term.rankKey) (b.map Term.rankKey)

/-! ## Rules -/

def uniquenessReport (level : RuleLevel) (r : Registry) : Report :=
  r.conflicts.flatMap fun c =>
    level.report .termConflict
      (match c.kind with
       | .definition => "term [[" ++ c.name ++ "]] is defined twice with different text"
       | .alias => "name or alias '" ++ c.name ++ "' refers to more than one term")
      [c.first, c.second]

def referenceReport (rules : TermRules) (m : Mention) : Report :=
  match m.meaning with
  | .visible _ => []
  | .hidden t =>
    rules.scope.report .scopeViolation
      ("[[" ++ m.reference.text ++ "]] is document-scoped to " ++ t.definition.file ++ " and not visible here")
      [m.location, t.location]
  | .undefined =>
    rules.completeness.report .undefinedTerm ("[[" ++ m.reference.text ++ "]] is not defined") [m.location]

def relationReport (rules : TermRules) (r : Registry) (t : Term) : Report :=
  t.definition.related.flatMap fun name =>
    match r.meaning name t.definition.file with
    | .visible _ => []
    | .hidden other =>
      rules.scope.report .scopeViolation
        ("[[" ++ t.name ++ "]] relates to [[" ++ name ++ "]], which is document-scoped to " ++
          other.definition.file)
        [t.location]
    | .undefined =>
      rules.completeness.report .undefinedTerm
        ("[[" ++ t.name ++ "]] relates to undefined [[" ++ name ++ "]]") [t.location]

def cycleReport (level : RuleLevel) (cycle : List Term) : Report :=
  level.report .circularReference
    ("circular related terms: " ++ join " -> " ((cycle ++ cycle.take 1).map Term.name)) (cycle.map Term.location)

def livenessReport (level : RuleLevel) (mentions : List Mention) (t : Term) : Report :=
  if (usesOf mentions t).isEmpty then
    level.report .unusedDefinition ("[[" ++ t.name ++ "]] is defined but never referenced") [t.location]
  else []

structure TermReport where
  findings : Report
  mentions : List Mention
  cycles : List (List Term)

namespace TermReport

def references (report : TermReport) : List Reference := report.mentions.map (·.reference)

def uses (report : TermReport) (t : Term) : List Reference := usesOf report.mentions t

def useCount (report : TermReport) (t : Term) : Nat := (report.uses t).length

/-- The terms that references mean, in the order of their first uses. -/
def used (report : TermReport) : List Term := (report.mentions.filterMap (·.meaning.term?)).eraseDups

/-- Every use of a term, with the term. -/
def resolved (report : TermReport) : List (Term × Reference) :=
  report.used.flatMap fun t => (report.uses t).map (t, ·)

end TermReport

def Registry.validate (r : Registry) (rules : TermRules) (references : List Reference) : TermReport :=
  let mentions := references.map r.mention
  let cycles := r.cycles
  { findings := uniquenessReport rules.uniqueness r
      ++ mentions.flatMap (referenceReport rules)
      ++ r.terms.flatMap (relationReport rules r)
      ++ cycles.flatMap (cycleReport rules.acyclicity)
      ++ r.terms.flatMap (livenessReport rules.liveness mentions)
    mentions
    cycles }

end Interlink.Glossary
