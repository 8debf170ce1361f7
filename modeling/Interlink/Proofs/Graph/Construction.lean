import Interlink.Proofs.Graph.Coherence

/-!
# Construction from facts

Every import of a file ends up in one of three places: as edges to the files that it means, among the imports
of packages or among the dangling ones. What the loops over files, imports and targets leave behind for a
file is what its own imports alone make of it.
-/

namespace Interlink

namespace Resolution

def isInternal : Resolution → Bool
  | .internal _ => true
  | _ => false

@[simp] theorem isInternal_internal (targets : List String) : (internal targets).isInternal = true := rfl

@[simp] theorem isInternal_external : external.isInternal = false := rfl

@[simp] theorem isInternal_unresolved : unresolved.isInternal = false := rfl

end Resolution

structure Outgoing where
  dependencies : KeySet := .empty
  external : List OpenImport := []
  unresolved : List OpenImport := []

namespace Outgoing

def file (o : Outgoing) (i : ImportFact) : Resolution → Outgoing
  | .internal targets => { o with dependencies := o.dependencies.union (.ofList targets) }
  | .external => { o with external := o.external ++ [.ofFact i] }
  | .unresolved => { o with unresolved := o.unresolved ++ [.ofFact i] }

def ofImports (resolve : ImportFact → Resolution) (imports : List ImportFact) : Outgoing :=
  imports.foldl (fun o i => o.file i (resolve i)) {}

variable (resolve : ImportFact → Resolution)

/-- A list that grows with the imports of one meaning holds these, in order. -/
theorem filter_ofImports {v : Outgoing → List OpenImport} {r : Resolution}
    (h : ∀ o i, v (o.file i (resolve i)) = if resolve i = r then v o ++ [.ofFact i] else v o)
    (imports : List ImportFact) :
    v (ofImports resolve imports) = v {} ++ (imports.filter fun i => resolve i = r).map .ofFact := by
  suffices ∀ o : Outgoing, v (imports.foldl (fun o i => o.file i (resolve i)) o) =
      v o ++ (imports.filter fun i => resolve i = r).map .ofFact from this {}
  induction imports with
  | nil => simp
  | cons i imports ih =>
    intro o
    rw [List.foldl_cons, ih, h]
    by_cases hr : resolve i = r <;> simp [hr]

theorem external_ofImports (imports : List ImportFact) :
    (ofImports resolve imports).external = (imports.filter fun i => resolve i = .external).map .ofFact := by
  refine filter_ofImports resolve (v := Outgoing.external) (fun o i => ?_) imports
  cases hr : resolve i <;> simp [file]

end Outgoing

namespace DependencyGraph

variable {g : DependencyGraph}

def outgoing (g : DependencyGraph) (file : String) : Outgoing :=
  ⟨g.dependencies file, g.external file, g.unresolved file⟩

/-! ## One import -/

theorem mem_dependencies_addImport {a b x y : String} :
    y ∈ (g.addImport a b).2.dependencies x ↔
      y ∈ g.dependencies x ∨ (x = a ∧ y = b ∧ g.contains a = true ∧ g.contains b = true) := by
  rcases addImport_cases g a b with ⟨e, hno⟩ | ⟨m, n, ha, hb, _, e⟩
  · rw [e]
    refine ⟨.inl, fun h => h.elim id ?_⟩
    intro hx
    obtain ⟨rfl, rfl, ha, hb⟩ := hx
    exact Classical.byContradiction fun hnew => hno ⟨ha, hb, hnew⟩
  · rw [e, mem_dependencies_connect]
    simp only [Table.contains_of_find? ha, Table.contains_of_find? hb, contains, and_true]

theorem outgoing_addImport_of_ne {a b x : String} (hx : x ≠ a) :
    (g.addImport a b).2.outgoing x = g.outgoing x := by
  have hd : (g.addImport a b).2.dependencies x = g.dependencies x :=
    KeySet.ext_mem fun y => by simp [mem_dependencies_addImport, hx]
  have he := addImport_frame (g := g) (external · x) (fun _ _ _ _ => rfl) a b
  have hu := addImport_frame (g := g) (unresolved · x) (fun _ _ _ _ => rfl) a b
  simp only [outgoing, hd, he, hu]

variable {file : String} {i : ImportFact} {r : Resolution}

theorem addResolved_frame {α : Type} (f : DependencyGraph → α)
    (hf : ∀ g arena imports importers packageImports danglingImports,
      f { g with arena, imports, importers, packageImports, danglingImports } = f g) :
    f (g.addResolved file i r) = f g := by
  cases r with
  | internal targets => exact foldl_frame (fun _ b => addImport_frame f (fun _ _ _ _ => hf ..) file b) targets g
  | external => exact hf ..
  | unresolved => exact hf ..

theorem coherent_addResolved (h : Coherent g) : Coherent (g.addResolved file i r) := by
  cases r with
  | internal targets =>
    exact List.foldlRecOn (motive := Coherent) targets _ h fun _ h b _ => coherent_addImport h file b
  | external => exact { h with }
  | unresolved => exact { h with }

theorem outgoing_addResolved_of_ne {x : String} (hx : x ≠ file) :
    (g.addResolved file i r).outgoing x = g.outgoing x := by
  cases r with
  | internal targets =>
    exact foldl_frame (v := fun g => outgoing g x) (fun _ _ => outgoing_addImport_of_ne hx) targets g
  | external => simp [addResolved, outgoing, dependencies, external, unresolved, Table.find?_upsert, hx]
  | unresolved => simp [addResolved, outgoing, dependencies, external, unresolved, Table.find?_upsert, hx]

/-- An import goes where its meaning says, if that means files of the graph only. -/
theorem outgoing_addResolved (hf : g.contains file = true)
    (hr : ∀ targets, r = .internal targets → ∀ b ∈ targets, g.contains b = true) :
    (g.addResolved file i r).outgoing file = (g.outgoing file).file i r := by
  cases r with
  | internal targets =>
    let step (g : DependencyGraph) (b : String) := (g.addImport file b).2
    have rest {α : Type} (f : DependencyGraph → α)
        (hf : ∀ g arena imports importers, f { g with arena, imports, importers } = f g) :
        f (targets.foldl step g) = f g := foldl_frame (fun _ b => addImport_frame f hf file b) targets g
    have hd : (targets.foldl step g).dependencies file = (g.dependencies file).union (.ofList targets) := by
      refine KeySet.ext_mem fun y => ?_
      have one (g' : DependencyGraph) (b : String) (e : g'.numbers = g.numbers) :
          y ∈ (step g' b).dependencies file ↔ y ∈ g'.dependencies file ∨ (y = b ∧ g.contains b = true) := by
        have hf' : g.numbers.contains file = true := hf
        simp [step, mem_dependencies_addImport, contains, e, hf']
      have all := foldl_adds_of (f := step) (P := (y ∈ dependencies · file)) (I := (numbers · = g.numbers))
        (fun _ b e => (addImport_frame numbers (fun _ _ _ _ => rfl) file b).trans e) one targets rfl
      rw [all]
      simp only [KeySet.mem_union, KeySet.mem_ofList]
      refine or_congr_right ⟨?_, fun hy => ⟨y, hy, rfl, hr targets rfl y hy⟩⟩
      intro hx
      obtain ⟨b, hb, rfl, _⟩ := hx
      exact hb
    have he := rest (external · file) fun _ _ _ _ => rfl
    have hu := rest (unresolved · file) fun _ _ _ _ => rfl
    show (targets.foldl step g).outgoing file = _
    simp only [outgoing, Outgoing.file, hd, he, hu]
  | external => simp [addResolved, outgoing, Outgoing.file, dependencies, external, unresolved, Table.find?_upsert]
  | unresolved =>
    simp [addResolved, outgoing, Outgoing.file, dependencies, external, unresolved, Table.find?_upsert]

/-! ## The imports of one file -/

variable {resolver : Resolver} {languages : LanguageSet} {facts : FileFacts}

theorem addFacts_frame {α : Type} (f : DependencyGraph → α)
    (hf : ∀ g arena imports importers packageImports danglingImports exportFacts,
      f { g with arena, imports, importers, packageImports, danglingImports, exportFacts } = f g) :
    f (g.addFacts resolver languages file facts) = f g := by
  unfold addFacts
  split
  · dsimp only
    split
    · rw [foldl_frame fun _ _ => addResolved_frame f fun _ _ _ _ _ _ => hf ..]
      exact hf ..
    · exact hf ..
  · rfl

theorem coherent_addFacts (h : Coherent g) : Coherent (g.addFacts resolver languages file facts) := by
  unfold addFacts
  split
  · have h' : Coherent { g with exportFacts := g.exportFacts.insert file facts.exports } := { h with }
    dsimp only
    split
    · exact List.foldlRecOn (motive := Coherent) _ _ h' fun _ h _ _ => coherent_addResolved h
    · exact h'
  · exact h

theorem outgoing_addFacts_of_ne {x : String} (hx : x ≠ file) :
    (g.addFacts resolver languages file facts).outgoing x = g.outgoing x := by
  unfold addFacts
  split
  · dsimp only
    split
    · exact foldl_frame (v := (outgoing · x)) (fun _ _ => outgoing_addResolved_of_ne hx) _ _
    · rfl
  · rfl

theorem outgoing_foldl_addResolved {resolve : ImportFact → Resolution} (hf : g.contains file = true)
    (hr : ∀ i targets, resolve i = .internal targets → ∀ b ∈ targets, g.contains b = true)
    (imports : List ImportFact) :
    (imports.foldl (fun g i => g.addResolved file i (resolve i)) g).outgoing file =
      imports.foldl (fun o i => o.file i (resolve i)) (g.outgoing file) := by
  induction imports generalizing g with
  | nil => rfl
  | cons i imports ih =>
    have same (x : String) : (g.addResolved file i (resolve i)).contains x = g.contains x :=
      addResolved_frame (contains · x) fun _ _ _ _ _ _ => rfl
    rw [List.foldl_cons, List.foldl_cons, ih ((same file).trans hf), outgoing_addResolved hf (hr i)]
    exact fun i targets h b hb => (same b).trans (hr i targets h b hb)

theorem outgoing_addFacts (h : Coherent g) (hfiles : ∀ b ∈ resolver.files, g.contains b = true)
    (hnew : g.outgoing file = {}) :
    (g.addFacts resolver languages file facts).outgoing file =
      ((g.language? languages file).map fun l =>
        Outgoing.ofImports (resolver.resolve l file) facts.imports).getD {} := by
  cases hc : g.contains file with
  | false =>
    have hnone : g.source? file = none := by
      simpa [source?, Table.contains_eq_isSome] using h.sourced.trans hc
    simpa [addFacts, hc, language?, hnone] using hnew
  | true =>
    have hr (l : Language) (i : ImportFact) (targets : List String)
        (h : resolver.resolve l file i = .internal targets) (b : String) (hb : b ∈ targets) :
        g.contains b = true := hfiles b (Resolver.mem_of_resolve h hb)
    let g' : DependencyGraph := { g with exportFacts := g.exportFacts.insert file facts.exports }
    have hl : g'.language? languages file = g.language? languages file := rfl
    simp only [addFacts, hc, if_true]
    rw [hl]
    cases g.language? languages file with
    | none => exact hnew
    | some l =>
      rw [Option.map_some, Option.getD_some, Outgoing.ofImports, ← hnew]
      exact outgoing_foldl_addResolved (g := g') hc (hr l) facts.imports

/-! ## The files -/

theorem coherent_ofSources (sources : List SourceFile) : Coherent (ofSources sources) :=
  List.foldlRecOn (motive := Coherent) sources _ coherent_empty fun _ h s _ => coherent_addFile h s

theorem contains_ofSources (sources : List SourceFile) {file : String} :
    (ofSources sources).contains file = true ↔ ∃ s ∈ sources, s.path = file := by
  have one (g : DependencyGraph) (s : SourceFile) :
      (g.addFile s).contains file = true ↔ g.contains file = true ∨ s.path = file := by
    rw [contains_addFile, or_comm, eq_comm (a := file)]
  have all := foldl_adds (P := fun g => g.contains file = true) one sources empty
  rw [ofSources, all]
  simp [empty, contains, Table.contains_eq_isSome]

theorem source?_ofSources (sources : List SourceFile) {file : String} :
    (ofSources sources).source? file = sources.reverse.find? (·.path = file) := by
  suffices ∀ g : DependencyGraph, (sources.foldl (fun g s => g.addFile s) g).source? file =
      (sources.reverse.find? (·.path = file)).or (g.source? file) by
    rw [ofSources, this]
    exact Option.or_none
  induction sources with
  | nil => intro g; rfl
  | cons s sources ih =>
    intro g
    rw [List.foldl_cons, ih, source?_addFile, List.reverse_cons, List.find?_append, Option.or_assoc]
    congr 1
    by_cases h : s.path = file
    · simp [h]
    · simp [h, Ne.symm h]

theorem outgoing_ofSources (sources : List SourceFile) (file : String) :
    (ofSources sources).outgoing file = {} := by
  refine (foldl_frame (v := (outgoing · file)) (fun g s => ?_) sources empty).trans rfl
  unfold addFile
  split <;> rfl

/-! ## All facts -/

section
variable (config : ResolveConfig) (languages : LanguageSet) (sources : List SourceFile) (facts : Table FileFacts)

theorem coherent_ofFacts : Coherent (ofFacts config languages sources facts) :=
  List.foldlRecOn (motive := Coherent) facts.toList _ (coherent_ofSources sources) fun _ h _ _ =>
    coherent_addFacts h

theorem ofFacts_frame {α : Type} (f : DependencyGraph → α)
    (hf : ∀ g arena imports importers packageImports danglingImports exportFacts,
      f { g with arena, imports, importers, packageImports, danglingImports, exportFacts } = f g) :
    f (ofFacts config languages sources facts) = f (ofSources sources) :=
  foldl_frame (fun _ _ => addFacts_frame f hf) facts.toList _

theorem contains_ofFacts {file : String} :
    (ofFacts config languages sources facts).contains file = true ↔ ∃ s ∈ sources, s.path = file := by
  rw [ofFacts_frame config languages sources facts (contains · file) fun _ _ _ _ _ _ _ => rfl]
  exact contains_ofSources sources

theorem source?_ofFacts {file : String} :
    (ofFacts config languages sources facts).source? file = sources.reverse.find? (·.path = file) := by
  rw [ofFacts_frame config languages sources facts (source? · file) fun _ _ _ _ _ _ _ => rfl]
  exact source?_ofSources sources

theorem outgoing_ofFacts (file : String) :
    let g := ofFacts config languages sources facts
    g.outgoing file = ((facts.find? file).bind fun f => (g.language? languages file).map fun l =>
      Outgoing.ofImports ((resolverOf config sources).resolve l file) f.imports).getD {} := by
  intro g
  let start := ofSources sources
  have hl : g.language? languages file = start.language? languages file :=
    ofFacts_frame config languages sources facts (language? · languages file) fun _ _ _ _ _ _ _ => rfl
  have hfiles : ∀ b ∈ (resolverOf config sources).files, start.contains b = true := fun b hb => by
    simpa [resolverOf, start, contains_ofSources] using hb
  let I : DependencyGraph → Prop := fun g =>
    Coherent g ∧ g.contains = start.contains ∧ g.language? languages file = start.language? languages file
  have keep (g : DependencyGraph) (e : String × FileFacts) (h : I g) :
      I (g.addFacts (resolverOf config sources) languages e.1 e.2) :=
    ⟨coherent_addFacts h.1, (addFacts_frame contains fun _ _ _ _ _ _ _ => rfl).trans h.2.1,
      (addFacts_frame (language? · languages file) fun _ _ _ _ _ _ _ => rfl).trans h.2.2⟩
  have here (g : DependencyGraph) (f : FileFacts) (h : I g) (hnew : g.outgoing file = {}) :
      (g.addFacts (resolverOf config sources) languages file f).outgoing file =
        ((start.language? languages file).map fun l =>
          Outgoing.ofImports ((resolverOf config sources).resolve l file) f.imports).getD {} := by
    rw [outgoing_addFacts h.1 (fun b hb => h.2.1 ▸ hfiles b hb) hnew, h.2.2]
  have all := foldl_at_key (v := (outgoing · file)) keep
    (fun _ _ hne => outgoing_addFacts_of_ne (Ne.symm hne)) here facts ⟨coherent_ofSources sources, rfl, rfl⟩
    (outgoing_ofSources sources file)
  rw [hl]
  refine all.trans ?_
  cases facts.find? file <;> rfl

theorem outgoing_ofFacts_of_not_contains {file : String}
    (h : (ofFacts config languages sources facts).contains file = false) :
    (ofFacts config languages sources facts).outgoing file = {} := by
  have hs := (coherent_ofFacts config languages sources facts).sourced.trans h
  rw [Table.contains_eq_isSome, Option.isSome_eq_false_iff, Option.isNone_iff_eq_none] at hs
  rw [outgoing_ofFacts]
  cases facts.find? file <;> simp [language?, source?, hs]

end

theorem mem_packages {file package : String} :
    file ∈ (g.packages.find? package).getD .empty ↔ ∃ i ∈ g.external file, i.specifier = package := by
  have all := foldl_adds (P := fun t : Table KeySet => file ∈ (t.find? package).getD .empty)
    (A := fun p : String × String => package = p.1 ∧ file = p.2) (fun _ _ => Table.mem_upsert_insert)
    (g.packageImports.toList.flatMap fun e => e.2.map fun i => (i.specifier, e.1)) .empty
  rw [packages, all, or_iff_right (by simp)]
  simp only [List.mem_flatMap, List.mem_map]
  constructor
  · intro hx
    obtain ⟨_, ⟨e, he, i, hi, rfl⟩, rfl, rfl⟩ := hx
    have hf : g.packageImports.find? e.1 = some e.2 := Table.find?_eq_some.mpr he
    exact ⟨i, by simpa [external, hf] using hi, rfl⟩
  · intro hx
    obtain ⟨i, hi, rfl⟩ := hx
    cases hf : g.packageImports.find? file with
    | none => simp [external, hf] at hi
    | some is =>
      exact ⟨_, ⟨(file, is), Table.find?_eq_some.mp hf, i, by simpa [external, hf] using hi, rfl⟩, rfl, rfl⟩

/-! ## Every graph -/

inductive Built : DependencyGraph → Prop
  | empty : Built empty
  | ofFacts (config : ResolveConfig) (languages : LanguageSet) (sources : List SourceFile)
      (facts : Table FileFacts) : Built (ofFacts config languages sources facts)
  | addFile {g : DependencyGraph} (h : Built g) (s : SourceFile) : Built (g.addFile s)
  | addImport {g : DependencyGraph} (h : Built g) (a b : String) : Built (g.addImport a b).2

theorem Built.coherent (h : Built g) : Coherent g := by
  induction h with
  | empty => exact coherent_empty
  | ofFacts config languages sources facts => exact coherent_ofFacts config languages sources facts
  | addFile _ s ih => exact coherent_addFile ih s
  | addImport _ a b ih => exact coherent_addImport ih a b

end DependencyGraph

end Interlink
