import Interlink.Analysis
import Interlink.Proofs.Assembly
import Interlink.Proofs.Consistency
import Interlink.Proofs.Glossary.Registry
import Interlink.Proofs.Graph.Construction

/-!
# Both ends of every relation

The index of a scan can be asked from either side: what the loops record at one end of a relation they record
at the other, for any documents and any facts.
-/

namespace Interlink

open Consistency Glossary

namespace Assembly

structure Sound (a : Assembly) : Prop where
  graph : a.graph.Coherent
  external {file : String} : a.graph.external file ≠ [] → a.graph.contains file = true
  mentioned {m : Mention} {t : Term} : m ∈ a.terms.report.mentions → m.meaning.term? = some t →
    t ∈ a.terms.registry.terms

variable {a : Assembly} {generatedAt : Timestamp} {id name file : String}

/-! ## What the checks see -/

theorem uses_index : uses (a.index generatedAt) id file = true ↔
    ∃ f, a.features.find? id = some f ∧ file ∈ (a.entry f).codeUsed :=
  Table.any_find?_iff.trans (mem_partAt_features fun _ _ => rfl)

theorem documents_index (h : a.graph.Coherent) : documents (a.index generatedAt) file id = true ↔
    ∃ f, a.features.find? id = some f ∧ file ∈ (a.entry f).codeUsed :=
  Table.any_find?_iff.trans (mem_documentedIn h)

theorem imports_index (h : a.graph.Coherent) {file' : String} :
    imports (a.index generatedAt) file file' = true ↔ file' ∈ a.graph.dependencies file := by
  refine Table.any_find?_iff.trans ((mem_partAt_code fun _ _ => rfl).trans ⟨?_, fun hd => ?_⟩)
  · intro hd
    exact hd.choose_spec.2
  · obtain ⟨⟨_, s, hs, _⟩, _⟩ := h.isFile_of_linked (h.drawn.mp hd)
    exact ⟨s, hs, hd⟩

theorem importedBy_index (h : a.graph.Coherent) {file' : String} :
    importedBy (a.index generatedAt) file' file = true ↔ file' ∈ a.graph.dependencies file := by
  refine Table.any_find?_iff.trans ((mem_partAt_code fun _ _ => rfl).trans ⟨?_, fun hd => ?_⟩)
  · intro hx
    obtain ⟨_, _, hd⟩ := hx
    exact h.mirrored.mpr hd
  · obtain ⟨_, _, s, hs, _⟩ := h.isFile_of_linked (h.drawn.mp hd)
    exact ⟨s, hs, h.mirrored.mp hd⟩

theorem relates_index {id' : String} : relates (a.index generatedAt) id id' = true ↔
    (id, id') ∈ a.relations ∨ (id', id) ∈ a.relations :=
  Table.any_find?_iff.trans mem_related

theorem provides_index : provides (a.index generatedAt) id name = true ↔
    ∃ f, a.features.find? id = some f ∧ name ∈ (a.entry f).provided :=
  Table.any_find?_iff.trans (mem_partAt_features fun _ _ => rfl)

theorem consumes_index : consumes (a.index generatedAt) id name = true ↔
    ∃ f, a.features.find? id = some f ∧ name ∈ (a.entry f).used :=
  Table.any_find?_iff.trans (mem_partAt_features fun _ _ => rfl)

theorem hasProvider_index : hasProvider (a.index generatedAt) name id = true ↔
    ∃ f, a.features.find? id = some f ∧ name ∈ (a.entry f).provided := by
  refine Table.any_find?_iff.trans ((mem_partAt_recorded (A := fun id' _ => id = id') (B := fun _ _ => False)
    KeySet.not_mem_empty ?_ ?_).trans ?_)
  · simp [or_comm]
  · simp
  · simp

theorem hasUser_index : hasUser (a.index generatedAt) name id = true ↔
    ∃ f, a.features.find? id = some f ∧ name ∈ (a.entry f).used := by
  refine Table.any_find?_iff.trans ((mem_partAt_recorded (A := fun _ _ => False) (B := fun id' _ => id = id')
    KeySet.not_mem_empty ?_ ?_).trans ?_)
  · simp
  · simp [or_comm]
  · simp

theorem mem_externalImports (h : a.Sound) {package : String} :
    package ∈ (a.index generatedAt).code.partAt CodeEntry.externalImports file ↔
      ∃ i ∈ a.graph.external file, i.specifier = package := by
  refine (mem_partAt_code fun _ _ => rfl).trans ?_
  simp only [codeEntry, DependencyGraph.nodeOf, KeySet.mem_ofList, List.mem_map]
  constructor
  · intro hp
    exact hp.choose_spec.2
  · intro hp
    obtain ⟨i, hi, e⟩ := hp
    obtain ⟨_, s, hs, _⟩ := h.graph.isFile (h.external (List.ne_nil_of_mem hi))
    exact ⟨s, hs, i, hi, e⟩

theorem mem_importersOf {used : KeySet} :
    file ∈ a.importersOf used ↔ file ∉ used ∧ ∃ target ∈ used, file ∈ a.graph.dependents target := by
  simp only [importersOf, KeySet.mem_ofList, List.mem_flatMap, List.mem_filter, decide_eq_true_eq,
    KeySet.mem_toList]
  constructor
  · intro h
    obtain ⟨target, ht, hf, hu⟩ := h
    exact ⟨hu, target, ht, hf⟩
  · intro h
    obtain ⟨hu, target, ht, hf⟩ := h
    exact ⟨target, ht, hf, hu⟩

theorem entry_of_find? {e : FeatureEntry} (he : (a.index generatedAt).features.find? id = some e) :
    ∃ f, a.features.find? id = some f ∧ a.entry f = { e with related := .empty } := by
  let bare (e : FeatureEntry) : FeatureEntry := { e with related := .empty }
  have all : ((a.index generatedAt).features.find? id).map bare =
      (a.features.find? id).map fun f => bare (a.entry f) :=
    find?_features fun _ _ => rfl
  rw [he, Option.map_some] at all
  obtain ⟨f, hf, e⟩ := Option.map_eq_some_iff.mp all.symm
  exact ⟨f, hf, e⟩

/-! ## Terms -/

theorem terms_index : (a.index generatedAt).terms =
    .ofList (a.terms.registry.terms.map fun t => (t.definition.key, a.termEntry t)) := by
  have all : (a.recorded generatedAt).terms = (a.blank generatedAt).terms :=
    foldl_frame (f := fun ix (e : String × Feature) => a.record ix e.1 e.2) (v := Index.terms) (fun _ _ => rfl) _ _
  exact all

theorem contains_terms {t : Term} (ht : t ∈ a.terms.registry.terms) :
    (a.index generatedAt).terms.contains t.definition.key = true := by
  rw [terms_index, Table.contains_ofList]
  exact ⟨_, List.mem_map_of_mem ht, rfl⟩

theorem useCount_of_find? {key : String} {t : TermEntry} (ht : (a.index generatedAt).terms.find? key = some t) :
    t.uses.length = t.useCount := by
  rw [terms_index, Table.find?_eq_some] at ht
  obtain ⟨_, _, e⟩ := List.mem_map.mp (Table.mem_of_mem_ofList ht)
  obtain rfl := (Prod.mk.inj e).2
  rfl

theorem contains_of_mem_termsDefined {doc key : String} (hk : key ∈ a.termsDefined doc) :
    (a.index generatedAt).terms.contains key = true := by
  obtain ⟨d, hd, rfl⟩ := List.mem_map.mp (KeySet.mem_ofList.mp hk)
  obtain ⟨t, ht, rfl⟩ := Registry.exists_term (List.mem_filter.mp hd).1
  exact contains_terms ht

theorem Sound.contains_of_mem_termsUsed (h : a.Sound) {doc key : String} (hk : key ∈ a.termsUsed doc) :
    (a.index generatedAt).terms.contains key = true := by
  obtain ⟨m, hm, hk⟩ := List.mem_filterMap.mp (KeySet.mem_ofList.mp hk)
  obtain ⟨t, ht, rfl⟩ := Option.map_eq_some_iff.mp hk
  exact contains_terms (h.mentioned (List.mem_filter.mp hm).1 ht)

/-! ## Both ends -/

theorem Sound.bidirectional (h : a.Sound) : (a.index generatedAt).Bidirectional where
  code id file := Bool.eq_iff_iff.mpr (uses_index.trans (documents_index h.graph).symm)
  imports x y := Bool.eq_iff_iff.mpr ((imports_index h.graph).trans (importedBy_index h.graph).symm)
  related x y := Bool.eq_iff_iff.mpr (relates_index.trans (or_comm.trans relates_index.symm))
  providers id name := Bool.eq_iff_iff.mpr (provides_index.trans hasProvider_index.symm)
  users id name := Bool.eq_iff_iff.mpr (consumes_index.trans hasUser_index.symm)
  counts := useCount_of_find?
  terms := by
    intro id e key he hk
    obtain ⟨f, _, hf⟩ := entry_of_find? he
    have hu : e.termsUsed = a.termsUsed f.path := congrArg FeatureEntry.termsUsed hf.symm
    have hd : e.termsDefined = a.termsDefined f.path := congrArg FeatureEntry.termsDefined hf.symm
    rw [hu, hd] at hk
    rcases hk with hk | hk
    · exact h.contains_of_mem_termsUsed hk
    · exact contains_of_mem_termsDefined hk

theorem relates_self : relates (a.index generatedAt) id id = false := by
  rw [Bool.eq_false_iff, ne_eq, relates_index, or_self, mem_relations]
  intro hx
  obtain ⟨_, _, _, hne, _⟩ := hx
  exact hne rfl

theorem Sound.mem_codeUsedBy (h : a.Sound) {e : FeatureEntry}
    (he : (a.index generatedAt).features.find? id = some e) :
    file ∈ e.codeUsedBy ↔
      file ∉ e.codeUsed ∧ ∃ target ∈ e.codeUsed, imports (a.index generatedAt) file target = true := by
  obtain ⟨f, _, hf⟩ := entry_of_find? he
  have hu : (a.entry f).codeUsed = e.codeUsed := by rw [hf]
  have hb : (a.entry f).codeUsedBy = e.codeUsedBy := by rw [hf]
  rw [← hb, ← hu]
  refine mem_importersOf.trans ?_
  simp only [imports_index h.graph, h.graph.mirrored]
  rfl

theorem mem_sharedTypes {i : InterfaceEntry} {type : String}
    (hi : (a.index generatedAt).interfaces.find? name = some i) :
    type ∈ i.sharedTypes ↔
      ∃ id ∈ i.providers, ∃ e, (a.index generatedAt).features.find? id = some e ∧ type ∈ e.sharedTypes := by
  have shared : type ∈ i.sharedTypes ↔ ∃ id f, a.features.find? id = some f ∧
      name ∈ (a.entry f).provided ∧ type ∈ (a.entry f).sharedTypes := by
    have e : (a.index generatedAt).interfaces.partAt InterfaceEntry.sharedTypes name = i.sharedTypes := by
      simp [Table.partAt, hi]
    rw [← e]
    refine (mem_partAt_recorded (A := fun _ f => type ∈ (a.entry f).sharedTypes) (B := fun _ _ => False)
      KeySet.not_mem_empty ?_ ?_).trans ?_ <;> simp
  have provider (id : String) : id ∈ i.providers ↔
      ∃ f, a.features.find? id = some f ∧ name ∈ (a.entry f).provided := by
    have hp : hasProvider (a.index generatedAt) name id = true ↔ id ∈ i.providers := by simp [hasProvider, hi]
    exact hp.symm.trans hasProvider_index
  have feature (id : String) : (∃ e, (a.index generatedAt).features.find? id = some e ∧ type ∈ e.sharedTypes) ↔
      ∃ f, a.features.find? id = some f ∧ type ∈ (a.entry f).sharedTypes := by
    rw [← Table.mem_partAt (p := FeatureEntry.sharedTypes)]
    exact mem_partAt_features fun _ _ => rfl
  rw [shared]
  refine exists_congr fun id => ?_
  rw [provider, feature]
  constructor
  · intro hx
    obtain ⟨f, hf, hp, ht⟩ := hx
    exact ⟨⟨f, hf, hp⟩, f, hf, ht⟩
  · intro hx
    obtain ⟨⟨f, hf, hp⟩, f', hf', ht⟩ := hx
    obtain rfl : f = f' := Option.some.inj (hf.symm.trans hf')
    exact ⟨f, hf, hp, ht⟩

theorem packages_index : (a.index generatedAt).packages = a.graph.packages :=
  recorded_frame (v := Index.packages) fun _ _ _ => rfl

theorem Sound.mem_packages (h : a.Sound) {package : String} :
    (∃ files, (a.index generatedAt).packages.find? package = some files ∧ file ∈ files) ↔
      ∃ c, (a.index generatedAt).code.find? file = some c ∧ package ∈ c.externalImports := by
  rw [← Table.mem_partAt (p := CodeEntry.externalImports), mem_externalImports h,
    ← DependencyGraph.mem_packages, packages_index]
  cases a.graph.packages.find? package <;> simp

end Assembly

/-! ## The index of a scan -/

namespace Analysis

theorem sound_assemblyOf (config : Config) (languages : LanguageSet) (scan : Scan) :
    (assemblyOf config languages scan).Sound where
  graph := DependencyGraph.coherent_ofFacts ..
  external := by
    intro file he
    refine Classical.byContradiction fun hc => he ?_
    have ho := DependencyGraph.outgoing_ofFacts_of_not_contains config.resolve languages scan.sources scan.facts
      (Bool.eq_false_iff.mpr hc)
    exact congrArg Outgoing.external ho
  mentioned := mem_terms_of_mem_mentions

/-- The index of any scan is free of inconsistencies. Each of its relations stands at both ends: features with
files, files with the files they import, features with features and with interfaces, packages with files. What
is derived is complete: the files that use a feature's code, and the types that an interface shares. -/
theorem index_ofScan_bidirectional (config : Config) (languages : LanguageSet) (generatedAt : Timestamp)
    (scan : Scan) :
    let graph := DependencyGraph.ofScan config.resolve languages scan
    let ix := (ofScan config languages generatedAt scan).index
    ix.validate.ofKind .indexInconsistency = [] ∧
    (∀ id file, uses ix id file = documents ix file id) ∧
    (∀ a b, imports ix a b = importedBy ix b a) ∧
    (∀ a b, imports ix a b = true ↔ (a, b) ∈ graph.edges) ∧
    (∀ id id', relates ix id id' = relates ix id' id) ∧
    (∀ id, relates ix id id = false) ∧
    (∀ id name, hasProvider ix name id = provides ix id name) ∧
    (∀ id name, hasUser ix name id = consumes ix id name) ∧
    (∀ id e, ix.features.find? id = some e → ∀ file, file ∈ e.codeUsedBy ↔
      file ∉ e.codeUsed ∧ ∃ target ∈ e.codeUsed, imports ix file target = true) ∧
    (∀ name i, ix.interfaces.find? name = some i → ∀ type, type ∈ i.sharedTypes ↔
      ∃ id ∈ i.providers, ∃ e, ix.features.find? id = some e ∧ type ∈ e.sharedTypes) ∧
    ∀ package file, (∃ files, ix.packages.find? package = some files ∧ file ∈ files) ↔
      ∃ c, ix.code.find? file = some c ∧ package ∈ c.externalImports := by
  intro graph ix
  have h := sound_assemblyOf config languages scan
  have hb : ix.Bidirectional := h.bidirectional
  refine ⟨Index.bidirectional_iff.mpr hb, hb.code, hb.imports, ?_, hb.related, fun _ => Assembly.relates_self,
    fun _ _ => (hb.providers ..).symm, fun _ _ => (hb.users ..).symm, fun _ _ he _ => h.mem_codeUsedBy he, ?_, ?_⟩
  · intro a b
    exact (Assembly.imports_index h.graph).trans DependencyGraph.mem_edges.symm
  · exact fun _ _ hi _ => Assembly.mem_sharedTypes hi
  · exact fun _ _ => h.mem_packages

end Analysis

end Interlink
