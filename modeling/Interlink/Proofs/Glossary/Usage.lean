import Interlink.Proofs.Glossary.Registry
import Interlink.Proofs.Listing
import Interlink.Proofs.Report

/-!
# What becomes of references

Validation gives every reference the name of the term that it means and lists it as a use of this term and of no
other. References and relations that mean no term, or a hidden one, are reported in a finding each.
-/

namespace Interlink.Glossary

def Registry.Meaning.hidden? : Registry.Meaning → Option Term
  | hidden t => some t
  | _ => none

/-! ## Findings -/

def missingReference (s : Severity) (x : Reference) : Finding :=
  ⟨.undefinedTerm, s, "[[" ++ x.text ++ "]] is not defined", [.ofLine x.file x.line]⟩

def hiddenReference (s : Severity) (x : Reference) (t : Term) : Finding :=
  ⟨.scopeViolation, s, "[[" ++ x.text ++ "]] is document-scoped to " ++ t.definition.file ++
    " and not visible here", [.ofLine x.file x.line, t.location]⟩

def missingRelation (s : Severity) (p : Term × String) : Finding :=
  ⟨.undefinedTerm, s, "[[" ++ p.1.name ++ "]] relates to undefined [[" ++ p.2 ++ "]]", [p.1.location]⟩

def hiddenRelation (s : Severity) (p : Term × String) (other : Term) : Finding :=
  ⟨.scopeViolation, s,
    "[[" ++ p.1.name ++ "]] relates to [[" ++ p.2 ++ "]], which is document-scoped to " ++ other.definition.file,
    [p.1.location]⟩

def unusedTerm (s : Severity) (t : Term) : Finding :=
  ⟨.unusedDefinition, s, "[[" ++ t.name ++ "]] is defined but never referenced", [t.location]⟩

section
variable {rules : TermRules} {level : RuleLevel} {s : Severity} {r : Registry} {m : Mention} {t : Term}
  {f : Finding}

theorem kind_of_mem_uniquenessReport (h : f ∈ uniquenessReport level r) : f.kind = .termConflict := by
  obtain ⟨_, _, hf⟩ := List.mem_flatMap.mp h
  exact RuleLevel.kind_of_mem_report hf

theorem kind_of_mem_livenessReport {ms : List Mention} (h : f ∈ livenessReport level ms t) :
    f.kind = .unusedDefinition := by
  unfold livenessReport at h
  split at h
  · exact RuleLevel.kind_of_mem_report h
  · cases h

theorem ofKind_referenceReport_undefinedTerm (on : rules.completeness.severity? = some s) :
    (referenceReport rules m).ofKind .undefinedTerm =
      if m.meaning = .undefined then [missingReference s m.reference] else [] := by
  unfold referenceReport
  cases hm : m.meaning with
  | visible t => rfl
  | hidden t => exact RuleLevel.ofKind_report_of_ne nofun
  | undefined => exact RuleLevel.ofKind_report.trans (RuleLevel.report_eq on)

theorem ofKind_referenceReport_scopeViolation (on : rules.scope.severity? = some s) :
    (referenceReport rules m).ofKind .scopeViolation =
      (m.meaning.hidden?.map (hiddenReference s m.reference)).toList := by
  unfold referenceReport
  cases hm : m.meaning with
  | visible t => rfl
  | hidden t => exact RuleLevel.ofKind_report.trans (RuleLevel.report_eq on)
  | undefined => exact RuleLevel.ofKind_report_of_ne nofun

theorem ofKind_referenceReport_unusedDefinition : (referenceReport rules m).ofKind .unusedDefinition = [] := by
  unfold referenceReport
  cases hm : m.meaning with
  | visible t => rfl
  | hidden t => exact RuleLevel.ofKind_report_of_ne nofun
  | undefined => exact RuleLevel.ofKind_report_of_ne nofun

end

namespace Registry

variable {rules : TermRules} {references : List Reference} {s : Severity} {r : Registry} {x : Reference} {t : Term}

/-! ## Mentions -/

def completed (r : Registry) (x : Reference) : Reference :=
  { x with canonical? := (r.meaning x.text x.file).term?.map Term.name }

theorem reference_mention (blank : x.canonical? = none) : (r.mention x).reference = r.completed x := by
  unfold mention completed
  dsimp only
  cases (r.meaning x.text x.file).term? with
  | some t => rfl
  | none => rw [Option.map_none, ← blank]

/-- Only the name of the term is new. -/
theorem exists_reference_mention (r : Registry) (x : Reference) :
    ∃ name?, (r.mention x).reference = { x with canonical? := name? } := by
  unfold mention
  dsimp only
  split
  · exact ⟨_, rfl⟩
  · exact ⟨_, rfl⟩

theorem hiddenReference_mention (x : Reference) (t : Term) :
    hiddenReference s (r.mention x).reference t = hiddenReference s x t := by
  obtain ⟨_, e⟩ := r.exists_reference_mention x
  rw [e]
  rfl

/-! ## Relations -/

def relations (r : Registry) : List (Term × String) := r.terms.flatMap fun t => t.definition.related.map (t, ·)

def relationMeaning (r : Registry) (p : Term × String) : Meaning := r.meaning p.2 p.1.definition.file

theorem ofKind_relationReport_undefinedTerm (on : rules.completeness.severity? = some s) :
    (relationReport rules r t).ofKind .undefinedTerm =
      ((t.definition.related.map (t, ·)).filter (r.relationMeaning · = .undefined)).map (missingRelation s) := by
  unfold relationReport
  rw [Report.ofKind_flatMap, List.filter_map, List.map_map]
  refine Report.flatMap_check fun name _ => ?_
  have meaning : r.relationMeaning (t, name) = r.meaning name t.definition.file := rfl
  split
  · rename_i u hm
    rw [Function.comp_apply, if_neg (by rw [meaning, hm]; nofun)]
    rfl
  · rename_i u hm
    rw [if_neg (by rw [meaning, hm]; nofun)]
    exact RuleLevel.ofKind_report_of_ne nofun
  · rename_i hm
    rw [if_pos (meaning.trans hm), RuleLevel.ofKind_report, RuleLevel.report_eq on]
    rfl

theorem ofKind_relationReport_scopeViolation (on : rules.scope.severity? = some s) :
    (relationReport rules r t).ofKind .scopeViolation =
      (t.definition.related.map (t, ·)).filterMap fun p =>
        (r.relationMeaning p).hidden?.map (hiddenRelation s p) := by
  unfold relationReport
  rw [Report.ofKind_flatMap, List.filterMap_map, List.filterMap_eq_flatMap_toList]
  refine List.flatMap_congr fun name _ => ?_
  dsimp only [relationMeaning, Function.comp_apply]
  cases r.meaning name t.definition.file with
  | visible u => rfl
  | hidden u => exact RuleLevel.ofKind_report.trans (RuleLevel.report_eq on)
  | undefined => exact RuleLevel.ofKind_report_of_ne nofun

theorem ofKind_relationReport_unusedDefinition : (relationReport rules r t).ofKind .unusedDefinition = [] := by
  unfold relationReport
  rw [Report.ofKind_flatMap]
  refine List.flatMap_eq_nil_iff.mpr fun name _ => ?_
  cases r.meaning name t.definition.file with
  | visible u => rfl
  | hidden u => exact RuleLevel.ofKind_report_of_ne nofun
  | undefined => exact RuleLevel.ofKind_report_of_ne nofun

/-! ## The whole report -/

/-- Findings that stand for references, relations or terms. -/
theorem ofKind_validate (k : FindingKind) (hu : .termConflict ≠ k) (hc : .circularReference ≠ k) :
    (r.validate rules references).findings.ofKind k =
      ((references.map r.mention).flatMap fun m => (referenceReport rules m).ofKind k) ++
      (r.terms.flatMap fun t => (relationReport rules r t).ofKind k) ++
      r.terms.flatMap fun t => (livenessReport rules.liveness (references.map r.mention) t).ofKind k := by
  have unique : (uniquenessReport rules.uniqueness r).ofKind k = [] :=
    Report.ofKind_eq_nil fun f hf e => hu ((kind_of_mem_uniquenessReport hf).symm.trans e)
  have acyclic : Report.ofKind (r.cycles.flatMap (cycleReport rules.acyclicity)) k = [] := by
    rw [Report.ofKind_flatMap]
    exact List.flatMap_eq_nil_iff.mpr fun _ _ => RuleLevel.ofKind_report_of_ne hc
  simp only [validate, Report.ofKind_append, unique, acyclic, Report.ofKind_flatMap, List.nil_append,
    List.append_nil]

theorem flatMap_livenessReport_of_ne {ms : List Mention} {level : RuleLevel} (k : FindingKind)
    (h : .unusedDefinition ≠ k) : (r.terms.flatMap fun t => (livenessReport level ms t).ofKind k) = [] :=
  List.flatMap_eq_nil_iff.mpr fun _ _ =>
    Report.ofKind_eq_nil fun _ hf e => h ((kind_of_mem_livenessReport hf).symm.trans e)

theorem ofKind_validate_undefinedTerm (on : rules.completeness.severity? = some s) :
    (r.validate rules references).findings.ofKind .undefinedTerm =
      (references.filter fun x => r.meaning x.text x.file = .undefined).map (missingReference s) ++
      (r.relations.filter (r.relationMeaning · = .undefined)).map (missingRelation s) := by
  have ofReferences :
      ((references.map r.mention).flatMap fun m => (referenceReport rules m).ofKind .undefinedTerm) =
      (references.filter fun x => r.meaning x.text x.file = .undefined).map (missingReference s) := by
    rw [List.flatMap_map]
    refine Report.flatMap_check fun x _ => ?_
    rw [ofKind_referenceReport_undefinedTerm on, meaning_mention]
    split
    · rename_i hm
      rw [mention, hm]
      rfl
    · rfl
  have ofRelations : (r.terms.flatMap fun t => (relationReport rules r t).ofKind .undefinedTerm) =
      (r.relations.filter (r.relationMeaning · = .undefined)).map (missingRelation s) := by
    rw [relations, List.filter_flatMap, List.map_flatMap]
    exact List.flatMap_congr fun t _ => ofKind_relationReport_undefinedTerm on
  rw [ofKind_validate .undefinedTerm nofun nofun, ofReferences, ofRelations,
    flatMap_livenessReport_of_ne .undefinedTerm nofun, List.append_nil]

theorem ofKind_validate_scopeViolation (on : rules.scope.severity? = some s) :
    (r.validate rules references).findings.ofKind .scopeViolation =
      (references.filterMap fun x => (r.meaning x.text x.file).hidden?.map (hiddenReference s x)) ++
      r.relations.filterMap fun p => (r.relationMeaning p).hidden?.map (hiddenRelation s p) := by
  have ofReferences :
      ((references.map r.mention).flatMap fun m => (referenceReport rules m).ofKind .scopeViolation) =
      references.filterMap fun x => (r.meaning x.text x.file).hidden?.map (hiddenReference s x) := by
    rw [List.flatMap_map, List.filterMap_eq_flatMap_toList]
    refine List.flatMap_congr fun x _ => ?_
    rw [ofKind_referenceReport_scopeViolation on, meaning_mention]
    cases (r.meaning x.text x.file).hidden? with
    | some t => exact congrArg ([·]) (hiddenReference_mention x t)
    | none => rfl
  have ofRelations : (r.terms.flatMap fun t => (relationReport rules r t).ofKind .scopeViolation) =
      r.relations.filterMap fun p => (r.relationMeaning p).hidden?.map (hiddenRelation s p) := by
    rw [relations, List.filterMap_flatMap]
    exact List.flatMap_congr fun t _ => ofKind_relationReport_scopeViolation on
  rw [ofKind_validate .scopeViolation nofun nofun, ofReferences, ofRelations,
    flatMap_livenessReport_of_ne .scopeViolation nofun, List.append_nil]

theorem ofKind_validate_unusedDefinition (on : rules.liveness.severity? = some s) :
    (r.validate rules references).findings.ofKind .unusedDefinition =
      (r.terms.filter ((r.validate rules references).useCount · = 0)).map (unusedTerm s) := by
  have ofReferences : ((references.map r.mention).flatMap fun m =>
      (referenceReport rules m).ofKind .unusedDefinition) = [] :=
    List.flatMap_eq_nil_iff.mpr fun _ _ => ofKind_referenceReport_unusedDefinition
  have ofRelations : (r.terms.flatMap fun t => (relationReport rules r t).ofKind .unusedDefinition) = [] :=
    List.flatMap_eq_nil_iff.mpr fun _ _ => ofKind_relationReport_unusedDefinition
  rw [ofKind_validate .unusedDefinition nofun nofun, ofReferences, ofRelations, List.nil_append, List.nil_append]
  refine Report.flatMap_check fun t _ => ?_
  rw [Report.ofKind_eq_self fun _ => kind_of_mem_livenessReport, livenessReport, RuleLevel.report_eq on]
  exact if_congr (List.isEmpty_iff_length_eq_zero) rfl rfl

end Registry

/-! ## Accounts -/

/-- A report that accounts for references by what they mean in a registry. Each one comes with the
name of its term, if it has any, and is listed under that term as often as it occurs, and under no
other. Counts of uses add up, and the list of all uses has each of them once. Where the rules are
on, there is one finding for each reference and each relation without a visible term, and for each
term without a use. -/
structure TermReport.Accounts (r : Registry) (rules : TermRules) (references : List Reference)
    (report : TermReport) :
    Prop where
  completed : report.references = references.map r.completed
  resolves {x : Reference} : x ∈ report.references → (x.canonical?.isSome ↔ r.meaning x.text x.file ≠ .undefined)
  listed {x : Reference} {name : String} : x ∈ report.references → x.canonical? = some name →
    ∃ t ∈ r.terms, t.name = name ∧ (report.uses t).count x = report.references.count x ∧
      ∀ u, x ∈ report.uses u → u = t
  unlisted {x : Reference} : x ∈ report.references → x.canonical? = none → ∀ t, x ∉ report.uses t
  counted : (r.terms.map report.useCount).sum = report.references.countP (·.canonical?.isSome)
  resolved : (report.resolved.map (·.2)).Perm (report.references.filter (·.canonical?.isSome))
  resolved_uses {t : Term} {x : Reference} : (t, x) ∈ report.resolved → x ∈ report.uses t
  uses (t : Term) : report.uses t = report.references.filter fun x => (r.meaning x.text x.file).term? = some t
  undefinedTerms {s : Severity} : rules.completeness.severity? = some s →
    report.findings.ofKind .undefinedTerm =
      (references.filter fun x => r.meaning x.text x.file = .undefined).map (missingReference s) ++
      (r.relations.filter (r.relationMeaning · = .undefined)).map (missingRelation s)
  scopeViolations {s : Severity} : rules.scope.severity? = some s →
    report.findings.ofKind .scopeViolation =
      (references.filterMap fun x => (r.meaning x.text x.file).hidden?.map (hiddenReference s x)) ++
      r.relations.filterMap fun p => (r.relationMeaning p).hidden?.map (hiddenRelation s p)
  unusedDefinitions {s : Severity} : rules.liveness.severity? = some s →
    report.findings.ofKind .unusedDefinition = (r.terms.filter (report.useCount · = 0)).map (unusedTerm s)

namespace Registry

section
variable {r : Registry} {rules : TermRules} {references : List Reference} {x : Reference} {m : Mention} {t : Term}

theorem meaning_of_mem_mentions (hm : m ∈ references.map r.mention) :
    r.meaning m.reference.text m.reference.file = m.meaning := by
  obtain ⟨x, _, rfl⟩ := List.mem_map.mp hm
  obtain ⟨_, e⟩ := r.exists_reference_mention x
  rw [meaning_mention, e]

theorem uses_validate : (r.validate rules references).uses t =
    (r.validate rules references).references.filter fun x => (r.meaning x.text x.file).term? = some t := by
  rw [TermReport.references, List.filter_map]
  refine congrArg _ (List.filter_congr fun m hm => ?_)
  rw [Function.comp_apply, meaning_of_mem_mentions hm]

theorem mem_uses_validate : x ∈ (r.validate rules references).uses t ↔
    x ∈ (r.validate rules references).references ∧ (r.meaning x.text x.file).term? = some t := by
  rw [uses_validate, List.mem_filter, decide_eq_true_iff]

theorem term?_eq_none_iff {meaning : Meaning} : meaning.term? = none ↔ meaning = .undefined := by
  cases meaning <;> simp [Meaning.term?]

/-! ## References that were blank -/

variable (blank : ∀ x ∈ references, x.canonical? = none)
include blank

theorem references_validate : (r.validate rules references).references = references.map r.completed := by
  rw [TermReport.references, validate, List.map_map]
  exact List.map_congr_left fun x hx => reference_mention (blank x hx)

theorem canonical?_of_mem_references (hx : x ∈ (r.validate rules references).references) :
    x.canonical? = (r.meaning x.text x.file).term?.map Term.name := by
  rw [references_validate blank] at hx
  obtain ⟨y, _, rfl⟩ := List.mem_map.mp hx
  rfl

theorem isSome_canonical?_of_mem_mentions (hm : m ∈ (r.validate rules references).mentions) :
    m.reference.canonical?.isSome = m.meaning.term?.isSome := by
  have named := canonical?_of_mem_references blank (List.mem_map_of_mem (f := (·.reference)) hm)
  rw [named, Option.isSome_map, meaning_of_mem_mentions hm]

/-- The resolved references, told by their names or by their terms. -/
theorem filter_canonical?_validate :
    (r.validate rules references).references.filter (·.canonical?.isSome) =
      ((r.validate rules references).mentions.filter (·.meaning.term?.isSome)).map (·.reference) := by
  rw [TermReport.references, List.filter_map]
  exact congrArg _ (List.filter_congr fun m hm => isSome_canonical?_of_mem_mentions blank hm)

theorem resolved_validate_perm : ((r.validate rules references).resolved.map (·.2)).Perm
    ((r.validate rules references).references.filter (·.canonical?.isSome)) := by
  have listed_used (m : Mention) (hm : m ∈ (r.validate rules references).mentions) (t : Term)
      (ht : m.meaning.term? = some t) : t ∈ (r.validate rules references).used :=
    List.mem_eraseDups.mpr (List.mem_filterMap.mpr ⟨m, hm, ht⟩)
  have once := flatMap_filter_perm (nodup_eraseDups _) _ listed_used
  have listed : (r.validate rules references).resolved.map (·.2) =
      ((r.validate rules references).used.flatMap fun t =>
        (r.validate rules references).mentions.filter (·.meaning.term? = some t)).map (·.reference) := by
    rw [TermReport.resolved, List.map_flatMap, List.map_flatMap]
    refine List.flatMap_congr fun t _ => ?_
    rw [List.map_map]
    exact List.map_id _
  rw [listed, filter_canonical?_validate blank]
  exact once.map _

theorem Orderly.sum_useCount_validate (h : r.Orderly) : (r.terms.map (r.validate rules references).useCount).sum =
    (r.validate rules references).references.countP (·.canonical?.isSome) := by
  have known (m : Mention) (hm : m ∈ (r.validate rules references).mentions) (t : Term)
      (ht : m.meaning.term? = some t) : t ∈ r.terms := by
    obtain ⟨x, _, rfl⟩ := List.mem_map.mp hm
    exact h.mem_terms_of_meaning (meaning_mention ▸ ht)
  have counts : r.terms.map (r.validate rules references).useCount = r.terms.map fun t =>
      ((r.validate rules references).mentions.filter (·.meaning.term? = some t)).length :=
    List.map_congr_left fun t _ => List.length_map _
  rw [counts, sum_length_filter r.nodup_terms _ known, List.countP_eq_length_filter,
    filter_canonical?_validate blank, List.length_map]

end

/-- Validation of any references in any registry accounts for each of them. -/
theorem validate_accounts (ds : List Definition) (rules : TermRules) {references : List Reference}
    (blank : ∀ x ∈ references, x.canonical? = none) :
    ((ofList ds).validate rules references).Accounts (ofList ds) rules references := by
  have h := orderly_ofList ds
  refine { completed := references_validate blank, resolves := fun {x} hx => ?_,
           listed := fun {x name} hx hname => ?_, unlisted := fun {x} hx hnone t ht => ?_,
           counted := h.sum_useCount_validate blank, resolved := resolved_validate_perm blank,
           resolved_uses := fun {t x} hp => ?_, uses := fun t => uses_validate,
           undefinedTerms := ofKind_validate_undefinedTerm, scopeViolations := ofKind_validate_scopeViolation,
           unusedDefinitions := ofKind_validate_unusedDefinition }
  · rw [canonical?_of_mem_references blank hx, Option.isSome_map, ← not_iff_not, Option.not_isSome_iff_eq_none,
      term?_eq_none_iff, not_not]
  · rw [canonical?_of_mem_references blank hx] at hname
    obtain ⟨t, ht, rfl⟩ := Option.map_eq_some_iff.mp hname
    refine ⟨t, h.mem_terms_of_meaning ht, rfl, ?_, fun u hu => ?_⟩
    · rw [uses_validate]
      exact List.count_filter (decide_eq_true ht)
    · exact Option.some.inj ((mem_uses_validate.mp hu).2.symm.trans ht)
  · rw [canonical?_of_mem_references blank hx, (mem_uses_validate.mp ht).2] at hnone
    cases hnone
  · obtain ⟨u, _, hu⟩ := List.mem_flatMap.mp hp
    obtain ⟨y, hy, e⟩ := List.mem_map.mp hu
    obtain ⟨rfl, rfl⟩ := Prod.mk.inj e
    exact hy

/-- A reference that occurs twice, one to a hidden term and one to none. -/
theorem validate_accounts_repeated :
    let widget : Definition := ⟨"Widget", "widget", .concept, .global, ["gizmo"], ["Nothing"], "x", "g.md", 1⟩
    let secret : Definition := ⟨"Secret", "secret", .concept, .document, [], [], "x", "a.md", 1⟩
    let gizmo : Reference := ⟨"Gizmo", none, "b.md", 1, ""⟩
    let references := [gizmo, gizmo, { gizmo with text := "secret" }, { gizmo with text := "nothing" }]
    let r := ofList [widget, secret]
    let report := r.validate {} references
    (∀ x ∈ references, x.canonical? = none) ∧ report.Accounts r {} references ∧
      report.references.map (·.canonical?) = [some "Widget", some "Widget", some "Secret", none] ∧
      r.terms.map report.useCount = [2, 1] := by
  intro widget secret gizmo references r report
  have blank : ∀ x ∈ references, x.canonical? = none := by decide
  have accounts : report.Accounts r {} references := validate_accounts [widget, secret] {} blank
  exact ⟨blank, accounts, by decide +kernel, by decide +kernel⟩

end Registry

end Interlink.Glossary
