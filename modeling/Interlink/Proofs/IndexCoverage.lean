import Interlink.Proofs.Analysis
import Interlink.Proofs.Coverage

/-!
# Coverage as the index tells it

The search for what documents cover runs through the graph. All that it finds can be told from the
index alone: its entries name the same documents, imports, exports and roles, so a reader of the
index finds the same orphans.
-/

namespace Interlink

open Consistency
open Relation (ReflTransGen TransGen)

namespace Index

def Documented (ix : Index) (file : String) : Prop := ∃ c, ix.code.find? file = some c ∧ c.documentedIn ≠ .empty

def Covered (ix : Index) (file : String) : Prop :=
  ∃ s, ix.Documented s ∧ ReflTransGen (fun a b => imports ix a b = true) s file

structure Orphaned (ix : Index) (includeTests : Bool) (file : String) (c : CodeEntry) : Prop where
  entry : ix.code.find? file = some c
  uncovered : ¬ ix.Covered file
  role : includeTests = true ∨ c.role ≠ .test

def named (ix : Index) : List String := ix.features.values.flatMap (·.codeUsed.toList)

variable {ix : Index} {file : String}

theorem Documented.covered (h : ix.Documented file) : ix.Covered file := ⟨file, h, .refl⟩

theorem documented_iff : ix.Documented file ↔ ∃ id, documents ix file id = true := by
  simp only [Documented, documents, Option.any_eq_true, decide_eq_true_eq]
  rw [exists_comm]
  refine exists_congr fun c => ?_
  rw [exists_and_left, and_congr_right_iff]
  intro _
  rw [← not_iff_not, not_exists, not_not]
  exact ⟨fun e _ => e ▸ KeySet.not_mem_empty, fun none => KeySet.ext_mem fun id => by simp [none id]⟩

theorem mem_named : file ∈ ix.named ↔ ∃ id, uses ix id file = true := by
  simp only [named, Table.values, List.mem_flatMap, List.mem_map, uses, Option.any_eq_true, decide_eq_true_eq,
    Table.find?_eq_some, Prod.exists, KeySet.mem_toList]
  constructor
  · intro h
    obtain ⟨_, ⟨id, f, hf, rfl⟩, hm⟩ := h
    exact ⟨id, f, hf, hm⟩
  · intro h
    obtain ⟨id, f, hf, hm⟩ := h
    exact ⟨f, ⟨id, f, hf, rfl⟩, hm⟩

theorem Bidirectional.mem_named (h : ix.Bidirectional) : file ∈ ix.named ↔ ix.Documented file := by
  rw [Index.mem_named, documented_iff]
  simp only [h.code]

end Index

namespace Assembly

variable {a : Assembly} {generatedAt : Timestamp} {includeTests : Bool} {file : String} {c : CodeEntry}

/-! ## Entries and files -/

/-- What the index tells of a file is what the graph tells. -/
theorem find?_code_index (a : Assembly) (generatedAt : Timestamp) (file : String) :
    ((a.index generatedAt).code.find? file).map (fun c => (c.role, c.exports)) =
      (a.graph.source? file).map fun s => (s.role, a.graph.exports file) :=
  find?_code_recorded fun _ _ => rfl

theorem exists_source (hc : (a.index generatedAt).code.find? file = some c) :
    ∃ s, a.graph.source? file = some s ∧ s.role = c.role ∧ a.graph.exports file = c.exports := by
  have all := find?_code_index a generatedAt file
  rw [hc, Option.map_some] at all
  obtain ⟨s, hs, e⟩ := Option.map_eq_some_iff.mp all.symm
  exact ⟨s, hs, Prod.mk.inj e⟩

theorem exists_entry {s : SourceFile} (hs : a.graph.source? file = some s) :
    ∃ c, (a.index generatedAt).code.find? file = some c ∧ c.role = s.role := by
  have all := find?_code_index a generatedAt file
  rw [hs, Option.map_some] at all
  obtain ⟨c, hc, e⟩ := Option.map_eq_some_iff.mp all
  exact ⟨c, hc, (Prod.mk.inj e).1⟩

section
variable (h : a.Sound)
include h

theorem Sound.imports_eq : (fun x y => imports (a.index generatedAt) x y = true) = a.graph.Imports :=
  funext fun _ => funext fun _ => propext ((imports_index h.graph).trans DependencyGraph.mem_edges.symm)

theorem Sound.contains_iff_source : a.graph.contains file = true ↔ ∃ s, a.graph.source? file = some s := by
  rw [← h.graph.sourced, Table.contains_eq_isSome, Option.isSome_iff_exists]
  rfl

theorem Sound.contains_of_documented (hd : (a.index generatedAt).Documented file) :
    a.graph.contains file = true := by
  obtain ⟨c, hc, _⟩ := hd
  obtain ⟨s, hs, _⟩ := exists_source hc
  exact h.contains_iff_source.mpr ⟨s, hs⟩

/-! ## Coverage -/

theorem Sound.mem_seeds : file ∈ (Coverage.ofGraph includeTests a.graph (a.index generatedAt).named).seeds ↔
    (a.index generatedAt).Documented file :=
  KeySet.mem_ofList.trans h.bidirectional.mem_named

theorem Sound.mem_reachable :
    file ∈ (Coverage.ofGraph includeTests a.graph (a.index generatedAt).named).reachable ↔
    ¬ (a.index generatedAt).Documented file ∧ (a.index generatedAt).Covered file := by
  refine (Coverage.mem_reachableFrom h.graph).trans ?_
  simp only [KeySet.mem_ofList, h.bidirectional.mem_named, Index.Covered, h.imports_eq]
  refine and_congr_right fun hf => exists_congr fun s => and_congr_right fun hs => ?_
  rw [and_iff_right (h.contains_of_documented hs), Relation.reflTransGen_iff_eq_or_transGen, or_iff_right]
  intro e
  exact hf (e ▸ hs)

theorem Sound.covered_iff : (a.index generatedAt).Covered file ↔
    file ∈ (a.index generatedAt).named ∨
      file ∈ (Coverage.ofGraph includeTests a.graph (a.index generatedAt).named).reachable := by
  rw [h.mem_reachable, h.bidirectional.mem_named]
  by_cases hd : (a.index generatedAt).Documented file
  · simp [hd, hd.covered]
  · simp [hd]

theorem Sound.uncovered (hc : (a.index generatedAt).Orphaned includeTests file c) :
    Coverage.Uncovered includeTests a.graph (a.index generatedAt).named file := by
  obtain ⟨s, hs, hr, _⟩ := exists_source hc.entry
  obtain ⟨notSeed, notReachable⟩ := not_or.mp (h.covered_iff.not.mp hc.uncovered)
  refine ⟨h.contains_iff_source.mpr ⟨s, hs⟩, notSeed, notReachable, hc.role.imp_right fun hne t ht => ?_⟩
  obtain rfl := Option.some.inj (hs.symm.trans ht)
  exact hr ▸ hne

theorem Sound.exists_orphaned (hu : Coverage.Uncovered includeTests a.graph (a.index generatedAt).named file) :
    ∃ c, (a.index generatedAt).Orphaned includeTests file c := by
  obtain ⟨s, hs⟩ := h.contains_iff_source.mp hu.contained
  obtain ⟨c, hc, hr⟩ := exists_entry hs
  exact ⟨c, hc, h.covered_iff.not.mpr (not_or.mpr ⟨hu.notSeed, hu.notReachable⟩),
    hu.role.imp_right fun hne => hr ▸ hne s hs⟩

end

end Assembly

namespace Analysis

/-- The index of any scan tells its coverage. Seeds are the files that documents name, and reachable
are the others to which imports lead from there. The orphans are the exports of all files that are
neither, tests apart unless they count, by file and name and else in the order of the text. -/
theorem coverage_ofScan_index (config : Config) (languages : LanguageSet) (generatedAt : Timestamp) (scan : Scan) :
    let a := ofScan config languages generatedAt scan
    (∀ file, file ∈ a.coverage.seeds ↔ a.index.Documented file) ∧
    (∀ file, file ∈ a.coverage.reachable ↔ ¬ a.index.Documented file ∧ a.index.Covered file) ∧
    (∀ o ∈ a.coverage.orphans, ∃ c, a.index.Orphaned config.includeTests o.file c) ∧
    (∀ file c name, a.index.Orphaned config.includeTests file c →
      (a.coverage.orphans.filter fun o => o.file = file ∧ o.name = name) =
        (c.exports.filter (·.name = name)).map fun e => ⟨file, e.name, e.kind, e.line⟩) ∧
    a.coverage.orphans.Pairwise fun o p => o.file < p.file ∨ (o.file = p.file ∧ o.name ≤ p.name) := by
  intro a
  have h := sound_assemblyOf config languages scan
  refine ⟨fun _ => h.mem_seeds, fun _ => h.mem_reachable,
    fun o ho => h.exists_orphaned (Coverage.uncovered_of_mem_orphans h.graph ho), fun file c name hc => ?_,
    (List.pairwise_mergeSort Coverage.precedes_trans Coverage.precedes_total _).imp Coverage.precedes_iff.mp⟩
  obtain ⟨_, _, _, he⟩ := Assembly.exists_source hc.entry
  rw [← he]
  exact Coverage.filter_orphans h.graph (h.uncovered hc)

end Analysis

end Interlink
