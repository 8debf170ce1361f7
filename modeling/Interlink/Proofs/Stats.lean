import Interlink.Proofs.Documents
import Interlink.Proofs.IndexCoverage
import Interlink.Proofs.Scan
import Interlink.Proofs.Snapshot

/-!
# The numbers of an index

An index counts its entries and what stands in them. Each of these numbers has another source: the scan
counts files and exports, the graph nodes and edges, the coverage its seeds. They all count the same things.
-/

namespace Interlink

/-! ## Counting in tables -/

namespace Table

variable {α β : Type} {t : Table α} {u : Table β}

theorem size_congr (h : ∀ k, t.contains k = u.contains k) : t.size = u.size := by
  rw [size_eq_card, size_eq_card]
  congr 1
  ext k
  rw [List.mem_toFinset, List.mem_toFinset, mem_keys, mem_keys, h]

def weight (t : Table α) (f : α → Nat) (k : String) : Nat := ((t.find? k).map f).getD 0

theorem total_eq_sum_weight (t : Table α) (f : α → Nat) {s : Finset String}
    (h : ∀ k, t.contains k = true → k ∈ s) :
    t.total f = ∑ k ∈ s, t.weight f k := by
  have here : t.total f = ∑ k ∈ t.keys.toFinset, t.weight f k := by
    rw [List.sum_toFinset _ t.nodup_keys, total_eq_sum, keys, List.map_map]
    apply congrArg List.sum
    apply List.map_congr_left
    intro e he
    have found : t.find? e.1 = some e.2 := find?_eq_some.mpr he
    simp [weight, found]
  rw [here]
  apply Finset.sum_subset
  · intro k hk
    exact h k (mem_keys.mp (List.mem_toFinset.mp hk))
  · intro k _ hk
    rw [List.mem_toFinset, mem_keys, contains_eq_isSome] at hk
    have absent : t.find? k = none := by simpa using hk
    simp [weight, absent]

theorem total_congr {f : α → Nat} {g : β → Nat} (h : ∀ k, t.weight f k = u.weight g k) :
    t.total f = u.total g := by
  let all := t.keys.toFinset ∪ u.keys.toFinset
  have left : t.total f = ∑ k ∈ all, t.weight f k := by
    apply total_eq_sum_weight
    intro k hk
    exact Finset.mem_union_left _ (List.mem_toFinset.mpr (mem_keys.mpr hk))
  have right : u.total g = ∑ k ∈ all, u.weight g k := by
    apply total_eq_sum_weight
    intro k hk
    exact Finset.mem_union_right _ (List.mem_toFinset.mpr (mem_keys.mpr hk))
  rw [left, right]
  exact Finset.sum_congr rfl fun k _ => h k

theorem countP_values (t : Table α) (p : α → Bool) : t.values.countP p = (t.filter fun _ v => p v).size := by
  rw [values, size, filter, List.countP_map, List.countP_eq_length_filter]
  rfl

end Table

/-! ## What the graph holds -/

namespace DependencyGraph

variable {g : DependencyGraph} {file package : String}

theorem edgeCount_eq_total (h : g.Coherent) : g.edgeCount = g.imports.total (·.size) := by
  rw [h.edgeCount_eq, edges, List.length_flatMap, Table.total_eq_sum]
  simp only [List.length_map]
  rfl

theorem exports_addFacts {resolver : Resolver} {languages : LanguageSet} {facts : FileFacts} {other : String} :
    (g.addFacts resolver languages other facts).exports file =
      if file = other ∧ g.contains other = true then facts.exports else g.exports file := by
  unfold addFacts
  by_cases hc : g.contains other = true
  · have stored :
        ({ g with exportFacts := g.exportFacts.insert other facts.exports } : DependencyGraph).exports file =
        if file = other then facts.exports else g.exports file := by
      unfold exports
      rw [Table.find?_insert]
      split <;> rfl
    rw [if_pos hc]
    simp only [hc, and_true, ← stored]
    -- the imports leave the exports alone
    split
    · apply foldl_frame (v := (exports · file))
      intro g i
      exact addResolved_frame (exports · file) fun _ _ _ _ _ _ => rfl
    · rfl
  · rw [if_neg hc, if_neg fun h => hc h.2]

section
variable (config : ResolveConfig) (languages : LanguageSet) (sources : List SourceFile) (facts : Table FileFacts)

theorem exports_ofFacts (listed : (ofFacts config languages sources facts).contains file = true) :
    (ofFacts config languages sources facts).exports file = ((facts.find? file).map (·.exports)).getD [] := by
  rw [ofFacts_frame config languages sources facts (contains · file) fun _ _ _ _ _ _ _ => rfl] at listed
  have none_yet : (ofSources sources).exports file = [] := by
    refine (foldl_frame (v := (exports · file)) (fun g s => ?_) sources empty).trans rfl
    unfold addFile
    split <;> rfl
  apply foldl_at_key (v := (exports · file)) (I := (contains · file = true))
  · intro g e hc
    exact (addFacts_frame (contains · file) fun _ _ _ _ _ _ _ => rfl).trans hc
  · intro g e hne
    rw [exports_addFacts, if_neg fun h => hne h.1.symm]
  · intro g f hc _
    rw [exports_addFacts, if_pos ⟨rfl, hc⟩]
  · exact listed
  · exact none_yet

theorem external_ofFacts (file : String) :
    let g := ofFacts config languages sources facts
    g.external file = ((facts.find? file).bind fun f => (g.language? languages file).map fun l =>
      (f.imports.filter fun i => (resolverOf config sources).resolve l file i = .external).map .ofFact).getD
        [] := by
  intro g
  have ho :
      g.external file = _ := congrArg Outgoing.external (outgoing_ofFacts config languages sources facts file)
  rw [ho]
  cases facts.find? file with
  | none => rfl
  | some f =>
    show Outgoing.external (((g.language? languages file).map _).getD {}) = _
    cases g.language? languages file with
    | none => rfl
    | some l => exact Outgoing.external_ofImports ..

end

theorem contains_packages : g.packages.contains package = true ↔
    ∃ file, ∃ i ∈ g.external file, i.specifier = package := by
  have none_yet : ¬ (Table.empty : Table KeySet).contains package = true := nofun
  rw [packages, Table.contains_foldl_upsert _ fun _ _ => rfl, or_iff_right none_yet]
  simp only [List.mem_flatMap, List.mem_map]
  constructor
  · intro h
    obtain ⟨_, ⟨e, he, i, hi, rfl⟩, rfl⟩ := h
    have hf : g.packageImports.find? e.1 = some e.2 := Table.find?_eq_some.mpr he
    exact ⟨e.1, i, by simpa [external, hf] using hi, rfl⟩
  · intro h
    obtain ⟨file, i, hi, rfl⟩ := h
    cases hf : g.packageImports.find? file with
    | none => simp [external, hf] at hi
    | some is =>
      exact ⟨_, ⟨(file, is), Table.find?_eq_some.mp hf, i, by simpa [external, hf] using hi, rfl⟩, rfl⟩

end DependencyGraph

/-! ## What the index counts -/

namespace Assembly

variable {a : Assembly} {generatedAt : Timestamp} {includeTests : Bool} {file package : String}

theorem weight_code_index {p : CodeEntry → Nat} (hp : ∀ c s, p { c with documentedIn := s } = p c) :
    (a.index generatedAt).code.weight p file =
      ((a.graph.source? file).map fun s => p (codeEntry (a.graph.nodeOf file s))).getD 0 := by
  unfold Table.weight
  rw [index, find?_code_recorded hp]

theorem contains_code_index : (a.index generatedAt).code.contains file = a.graph.sources.contains file := by
  have all := congrArg Option.isSome (find?_code_index a generatedAt file)
  rw [Option.isSome_map, Option.isSome_map] at all
  rw [Table.contains_eq_isSome, Table.contains_eq_isSome]
  exact all

theorem codeFiles_eq (h : a.graph.Coherent) : (a.index generatedAt).stats.codeFiles = a.graph.nodeCount := by
  rw [h.nodeCount_eq, DependencyGraph.files, Table.keys, List.length_map]
  exact Table.size_congr fun _ => contains_code_index

theorem importEdges_eq (h : a.graph.Coherent) : (a.index generatedAt).stats.importEdges = a.graph.edgeCount := by
  rw [DependencyGraph.edgeCount_eq_total h]
  apply Table.total_congr
  intro file
  have stored : a.graph.imports.weight (·.size) file = (a.graph.dependencies file).size := by
    unfold Table.weight DependencyGraph.dependencies
    cases a.graph.imports.find? file <;> rfl
  rw [weight_code_index fun _ _ => rfl, stored]
  cases hs : a.graph.source? file with
  | some s => rfl
  | none =>
    -- what is no file imports nothing
    have nothing : a.graph.dependencies file = .empty := by
      apply KeySet.ext_mem
      intro other
      refine iff_of_false (fun hd => ?_) KeySet.not_mem_empty
      obtain ⟨_, s, hs', _⟩ := (h.isFile_of_linked (h.drawn.mp hd)).1
      rw [hs] at hs'
      cases hs'
    rw [nothing]
    rfl

theorem Sound.documentedCodeFiles_eq (h : a.Sound) : (a.index generatedAt).stats.documentedCodeFiles =
    (Coverage.ofGraph includeTests a.graph (a.index generatedAt).named).seeds.size := by
  have documented : ((a.index generatedAt).code.filter fun _ c => !c.documentedIn.isEmpty).keySet =
      (Coverage.ofGraph includeTests a.graph (a.index generatedAt).named).seeds := by
    apply KeySet.ext_mem
    intro file
    rw [h.mem_seeds, Index.Documented, Table.mem_keySet, Table.contains_iff]
    apply exists_congr
    intro c
    simp only [Table.filter, List.mem_filter, Table.find?_eq_some]
    apply and_congr_right
    intro _
    rw [ne_eq, ← KeySet.isEmpty_iff_eq, Bool.not_eq_true, Bool.not_eq_true']
  show (a.index generatedAt).code.values.countP _ = _
  rw [Table.countP_values, ← documented]
  simp [KeySet.size, Table.keySet, Table.keys, Table.size]

end Assembly

/-! ## What the scan counts -/

namespace Scan

structure Tidy (s : Scan) : Prop where
  sorted : (s.sources.map (·.path)).Pairwise (· < ·)
  listed {file : String} : s.facts.contains file = true → ∃ src ∈ s.sources, src.path = file

theorem tidy_classify {config : ScanConfig} {languages : LanguageSet} {files : List ScannedFile}
    (distinct : (files.map (·.path)).Nodup) : (classify config languages files).Tidy where
  sorted := sorted_sources distinct
  listed := by
    intro file
    refine List.foldlRecOn (motive := fun s : Scan => s.facts.contains file = true →
      ∃ src ∈ s.sources, src.path = file)
      _ _ nofun ?_
    intro s ih f _
    unfold step
    cases classOf config languages f with
    | doc content => exact ih
    | unreadable => exact ih
    | other => exact ih
    | source language outcome =>
      have kept : s.facts.contains file = true →
          ∃ src ∈ s.sources ++ [(⟨f.path, language, FileRole.ofPath f.path⟩ : SourceFile)], src.path = file := by
        intro h
        obtain ⟨src, hs, e⟩ := ih h
        exact ⟨src, List.mem_append_left _ hs, e⟩
      cases outcome with
      | error message => exact kept
      | ok facts =>
        intro h
        rcases Table.contains_insert.mp h with rfl | h
        · exact ⟨_, List.mem_append_right _ List.mem_cons_self, rfl⟩
        · exact kept h

theorem Tidy.distinct {s : Scan} (h : s.Tidy) : (s.sources.map (·.path)).Nodup := h.sorted.imp String.ne_of_lt

/-- The specifiers of the imports that mean packages, in files of known languages. -/
def packageSpecifiers (config : ResolveConfig) (languages : LanguageSet) (s : Scan) : List String :=
  s.facts.toList.flatMap fun e =>
    match (s.source? e.1).bind fun src => languages.named? src.language with
    | some l =>
      (e.2.imports.filter fun i => (DependencyGraph.resolverOf config s.sources).resolve l e.1 i = .external).map
        (·.specifier)
    | none => []

open DependencyGraph

section
variable {scan : Scan} (h : scan.Tidy) (config : Config) (languages : LanguageSet)
include h

theorem Tidy.nodeCount_eq :
    (DependencyGraph.ofScan config.resolve languages scan).nodeCount = scan.sources.length := by
  have coherent : (DependencyGraph.ofScan config.resolve languages scan).Coherent := coherent_ofFacts ..
  have nodes : (DependencyGraph.ofScan config.resolve languages scan).files.Perm (scan.sources.map (·.path)) := by
    apply (List.perm_ext_iff_of_nodup nodup_files h.distinct).mpr
    intro file
    rw [mem_files, coherent.sourced, List.mem_map]
    exact contains_ofFacts ..
  rw [coherent.nodeCount_eq, nodes.length_eq, List.length_map]

theorem Tidy.source?_eq (file : String) :
    (DependencyGraph.ofScan config.resolve languages scan).source? file = scan.source? file := by
  apply Option.ext
  intro src
  have found : scan.source? file = some src ↔ src ∈ scan.sources ∧ src.path = file :=
    bisect_eq_some_iff (List.pairwise_map.mp h.sorted)
  rw [found, DependencyGraph.ofScan, source?_ofFacts]
  constructor
  · intro hs
    exact ⟨List.mem_reverse.mp (List.mem_of_find?_eq_some hs), by simpa using List.find?_some hs⟩
  · intro hs
    obtain ⟨hs, e⟩ := hs
    cases other : scan.sources.reverse.find? (·.path = file) with
    | none => exact absurd (decide_eq_true e) (List.find?_eq_none.mp other src (List.mem_reverse.mpr hs))
    | some src' =>
      have here : src'.path = file := by simpa using List.find?_some other
      have mem := List.mem_reverse.mp (List.mem_of_find?_eq_some other)
      rw [List.inj_on_of_nodup_map h.distinct mem hs (here.trans e.symm)]

theorem Tidy.packages_eq : (DependencyGraph.ofScan config.resolve languages scan).packages.size =
    (scan.packageSpecifiers config.resolve languages).toFinset.card := by
  rw [Table.size_eq_card]
  congr 1
  ext package
  rw [List.mem_toFinset, List.mem_toFinset, Table.mem_keys, contains_packages, packageSpecifiers, List.mem_flatMap]
  have external (file : String) : (DependencyGraph.ofScan config.resolve languages scan).external file = _ :=
    external_ofFacts config.resolve languages scan.sources scan.facts file
  have language (file : String) :
      (DependencyGraph.ofFacts config.resolve languages scan.sources scan.facts).language? languages file =
        (scan.source? file).bind fun src => languages.named? src.language := by
    rw [← h.source?_eq config languages]
    rfl
  simp only [external, language]
  constructor
  · intro hp
    obtain ⟨file, i, hi, rfl⟩ := hp
    cases hf : scan.facts.find? file with
    | none => simp [hf] at hi
    | some f =>
      refine ⟨(file, f), Table.find?_eq_some.mp hf, ?_⟩
      cases hl : (scan.source? file).bind fun src => languages.named? src.language with
      | none => simp [hf, hl] at hi
      | some l =>
        rw [hf, hl] at hi
        obtain ⟨j, hj, rfl⟩ := List.mem_map.mp hi
        exact List.mem_map.mpr ⟨j, hj, rfl⟩
  · intro hp
    obtain ⟨e, he, hp⟩ := hp
    have hf := Table.find?_eq_some.mpr he
    split at hp
    · rename_i l hl
      obtain ⟨j, hj, rfl⟩ := List.mem_map.mp hp
      refine ⟨e.1, .ofFact j, ?_, rfl⟩
      rw [hf, hl]
      exact List.mem_map.mpr ⟨j, hj, rfl⟩
    · cases hp

theorem Tidy.exports_eq (generatedAt : Timestamp) :
    ((Analysis.assemblyOf config languages scan).index generatedAt).stats.exports = scan.exportCount := by
  have sound := Analysis.sound_assemblyOf config languages scan
  have listed (file : String) : (Analysis.assemblyOf config languages scan).graph.contains file = true ↔
      ∃ s ∈ scan.sources, s.path = file := contains_ofFacts ..
  apply Table.total_congr
  intro file
  rw [Assembly.weight_code_index fun _ _ => rfl]
  cases hs : (Analysis.assemblyOf config languages scan).graph.source? file with
  | some s =>
    have stored : (Analysis.assemblyOf config languages scan).graph.exports file = _ :=
      exports_ofFacts config.resolve languages scan.sources scan.facts (sound.contains_iff_source.mpr ⟨s, hs⟩)
    show ((Analysis.assemblyOf config languages scan).graph.exports file).length = _
    rw [stored, Table.weight]
    cases scan.facts.find? file <;> rfl
  | none =>
    have absent : scan.facts.find? file = none := by
      apply Option.eq_none_iff_forall_not_mem.mpr
      intro f hf
      obtain ⟨s, hs'⟩ := sound.contains_iff_source.mp ((listed file).mpr (h.listed (Table.contains_of_find? hf)))
      rw [hs] at hs'
      cases hs'
    rw [Table.weight, absent]
    rfl

end

end Scan

/-! ## The index of a scan -/

namespace Assembly

variable {a : Assembly} {generatedAt : Timestamp}

theorem version_index : (a.index generatedAt).version = Index.currentVersion :=
  recorded_frame (v := Index.version) fun _ _ _ => rfl

theorem generatedAt_index : (a.index generatedAt).generatedAt = generatedAt :=
  recorded_frame (v := Index.generatedAt) fun _ _ _ => rfl

end Assembly

namespace Analysis

/-- The numbers of the index of a scan agree with what they summarise, whatever came of each file:
the files are the nodes of the graph and the sources of the scan, imports are the edges, exports are
those of the scan, documented files are the seeds of the coverage, and packages and features are
counted by their specifiers and ids. Saving and loading the index keeps its numbers. -/
theorem stats_ofScan {scanConfig : ScanConfig} {known : LanguageSet} {files : List ScannedFile}
    (distinct : (files.map (·.path)).Nodup) (config : Config) (languages : LanguageSet) (generatedAt : Timestamp) :
    let scan := Scan.classify scanConfig known files
    let a := ofScan config languages generatedAt scan
    let stats := a.index.stats
    stats.codeFiles = a.graph.nodeCount ∧ stats.codeFiles = scan.sources.length ∧
    stats.importEdges = a.graph.edgeCount ∧
    stats.exports = scan.exportCount ∧
    stats.documentedCodeFiles = a.coverage.seeds.size ∧
    stats.packages = (scan.packageSpecifiers config.resolve languages).toFinset.card ∧
    stats.features = (scan.docs.filterMap DocFile.featureId?).toFinset.card ∧
    (generatedAt.Valid → a.index.Fits → ∀ path, ∃ loaded,
      Snapshot.load path (Snapshot.save a.index) = .ok loaded ∧ loaded.stats = stats) := by
  intro scan a stats
  have tidy : scan.Tidy := Scan.tidy_classify distinct
  have sound := sound_assemblyOf config languages scan
  have nodes : stats.codeFiles = a.graph.nodeCount := Assembly.codeFiles_eq sound.graph
  refine ⟨nodes, nodes.trans (tidy.nodeCount_eq config languages), Assembly.importEdges_eq sound.graph,
    tidy.exports_eq config languages generatedAt, sound.documentedCodeFiles_eq, ?_, size_features_ofScan, ?_⟩
  · have packages : a.index.packages = a.graph.packages := Assembly.packages_index
    show a.index.packages.size = _
    rw [packages]
    exact tidy.packages_eq config languages
  · intro valid fits path
    have version : a.index.version = Index.currentVersion := Assembly.version_index
    have storable : a.index.Storable := by
      refine ⟨?_, ?_, fits⟩
      · rw [version]
        decide
      · have stamped : a.index.generatedAt = generatedAt := Assembly.generatedAt_index
        rw [stamped]
        exact valid
    exact ⟨a.index, Snapshot.load_save_of_storable path version storable, rfl⟩

/-- A document names a file that imports a package and a file that cannot be read. -/
theorem stats_ofScan_unread :
    let files : List ScannedFile := [⟨"a.md", .ok "---\nid: x\ncode_refs: [src/a.ts]\n---\n"⟩,
      ⟨"src/a.ts", .ok "import \x22./b\x22;\nimport \x22react\x22;\nexport const a = 1;\n"⟩,
      ⟨"src/b.ts", .error "not valid UTF-8"⟩]
    let a := ofScan {} .standard ⟨0, 0, 0⟩ (Scan.classify {} .standard files)
    (files.map (·.path)).Nodup ∧ a.graph.nodeCount = 2 ∧ a.index.stats.exports = 1 ∧ a.index.stats.features = 1 ∧
      ∃ loaded, Snapshot.load "index.json" (Snapshot.save a.index) = .ok loaded ∧
        loaded.stats = a.index.stats := by
  intro files a
  have distinct : (files.map (·.path)).Nodup := by decide
  obtain ⟨nodes, sources, _, exports, _, _, features, kept⟩ :=
    @stats_ofScan {} .standard files distinct {} .standard ⟨0, 0, 0⟩
  have scan_eq : Scan.classify {} .standard files = files.foldl (Scan.step {} .standard) {} := by
    rw [Scan.classify, List.mergeSort_of_pairwise (by decide)]
  have sources_two : (Scan.classify {} .standard files).sources.length = 2 := by
    rw [scan_eq]
    decide +kernel
  have exports_one : (Scan.classify {} .standard files).exportCount = 1 := by
    rw [scan_eq]
    decide +kernel
  have ids : (Scan.classify {} .standard files).docs.filterMap DocFile.featureId? = ["x"] := by
    rw [scan_eq]
    decide +kernel
  have fits : (ofScan {} .standard ⟨0, 0, 0⟩ (Scan.classify {} .standard files)).index.Fits := by
    rw [scan_eq]
    decide +kernel
  have ordinary : Timestamp.Ordinary ⟨0, 0, 0⟩ := ⟨by decide, by decide, by decide +kernel⟩
  exact ⟨distinct, nodes.symm.trans (sources.trans sources_two), exports.trans exports_one,
    features.trans (by rw [ids]; rfl), kept ordinary.valid fits "index.json"⟩

end Analysis

end Interlink
