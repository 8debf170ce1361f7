import Interlink.Glossary.Validation
import Interlink.Proofs.Report
import Mathlib.Data.List.Basic

/-!
# Levels of rules

The level of a rule decides whether and how its findings are shown, and nothing else. What
references mean, how terms are used and which relations run in circles is the same under all rules,
and so are the findings, if all rules that are off were on.
-/

namespace Interlink

namespace TermRules

def level? (rules : TermRules) : FindingKind → Option RuleLevel
  | .termConflict => some rules.uniqueness
  | .undefinedTerm => some rules.completeness
  | .scopeViolation => some rules.scope
  | .circularReference => some rules.acyclicity
  | .unusedDefinition => some rules.liveness
  | _ => none

def strict : TermRules := ⟨.error, .error, .error, .error, .error⟩

/-- A finding in the severity that its rule has, unless the rule is off. -/
def shown? (rules : TermRules) (f : Finding) : Option Finding :=
  ((rules.level? f.kind).bind RuleLevel.severity?).map fun s => { f with severity := s }

variable {rules other : TermRules} {f f' : Finding} {k : FindingKind} {level : RuleLevel} {message : String}
  {locations : List Location}

theorem filterMap_report (h : rules.level? k = some level) :
    (RuleLevel.error.report k message locations).filterMap rules.shown? = level.report k message locations := by
  have strict : RuleLevel.error.report k message locations = [⟨k, .error, message, locations⟩] := rfl
  have shown :
      rules.shown? ⟨k, .error, message, locations⟩ = level.severity?.map (⟨k, ·, message, locations⟩) := by
    rw [shown?, h]
    rfl
  rw [strict, List.filterMap_cons, shown]
  cases level <;> rfl

theorem kind_of_shown? (h : rules.shown? f = some f') : f'.kind = f.kind := by
  obtain ⟨_, _, rfl⟩ := Option.map_eq_some_iff.mp h
  rfl

theorem shown?_congr (h : rules.level? f.kind = other.level? f.kind) : rules.shown? f = other.shown? f := by
  rw [shown?, shown?, h]

theorem ofKind_filterMap_shown? (r : Report) (k : FindingKind) :
    Report.ofKind (r.filterMap rules.shown?) k = (r.ofKind k).filterMap rules.shown? := by
  rw [Report.ofKind, Report.ofKind, List.filter_filterMap, List.filterMap_filter]
  refine List.filterMap_congr fun f _ => ?_
  cases h : rules.shown? f with
  | none => simp
  | some f' => by_cases hk : f.kind = k <;> simp [Option.filter, kind_of_shown? h, hk]

end TermRules

namespace Glossary

open TermRules

section
variable {rules : TermRules} {r : Registry} {ms : List Mention} {t : Term} {m : Mention} {cycle : List Term}

theorem filterMap_uniquenessReport :
    (uniquenessReport strict.uniqueness r).filterMap rules.shown? = uniquenessReport rules.uniqueness r := by
  rw [uniquenessReport, uniquenessReport, List.filterMap_flatMap]
  exact List.flatMap_congr fun _ _ => filterMap_report rfl

theorem filterMap_referenceReport :
    (referenceReport strict m).filterMap rules.shown? = referenceReport rules m := by
  unfold referenceReport
  cases m.meaning with
  | visible t => rfl
  | hidden t => exact filterMap_report rfl
  | undefined => exact filterMap_report rfl

theorem filterMap_relationReport :
    (relationReport strict r t).filterMap rules.shown? = relationReport rules r t := by
  rw [relationReport, relationReport, List.filterMap_flatMap]
  refine List.flatMap_congr fun name _ => ?_
  cases r.meaning name t.definition.file with
  | visible u => rfl
  | hidden u => exact filterMap_report rfl
  | undefined => exact filterMap_report rfl

theorem filterMap_cycleReport :
    (cycleReport strict.acyclicity cycle).filterMap rules.shown? = cycleReport rules.acyclicity cycle :=
  filterMap_report rfl

theorem filterMap_livenessReport :
    (livenessReport strict.liveness ms t).filterMap rules.shown? = livenessReport rules.liveness ms t := by
  unfold livenessReport
  split
  · exact filterMap_report rfl
  · rfl

theorem filterMap_findings (r : Registry) (rules : TermRules) (references : List Reference) :
    (r.validate strict references).findings.filterMap rules.shown? = (r.validate rules references).findings := by
  simp only [Registry.validate, List.filterMap_append, List.filterMap_flatMap, filterMap_uniquenessReport,
    filterMap_referenceReport, filterMap_relationReport, filterMap_cycleReport, filterMap_livenessReport]

end

namespace Registry

/-- Two sets of rules tell the same of references, uses and cycles. The findings are those of the
strict rules as each rule shows them, so findings of a kind are the same under all rules that have
the same level for this kind. -/
theorem validate_levels (r : Registry) (references : List Reference) (rules other : TermRules) :
    let report := r.validate rules references
    let report' := r.validate other references
    report.references = report'.references ∧ (∀ t, report.uses t = report'.uses t) ∧
    report.resolved = report'.resolved ∧ report.cycles = report'.cycles ∧
    report.findings = (r.validate .strict references).findings.filterMap rules.shown? ∧
    ∀ k, rules.level? k = other.level? k → report.findings.ofKind k = report'.findings.ofKind k := by
  intro report report'
  refine ⟨rfl, fun _ => rfl, rfl, rfl, (filterMap_findings r rules references).symm, fun k same => ?_⟩
  rw [← filterMap_findings r rules references, ← filterMap_findings r other references, ofKind_filterMap_shown?,
    ofKind_filterMap_shown?]
  refine List.filterMap_congr fun f hf => shown?_congr ?_
  have hk : f.kind = k := of_decide_eq_true (List.mem_filter.mp hf).2
  rw [hk, same]

end Registry

end Glossary

end Interlink
