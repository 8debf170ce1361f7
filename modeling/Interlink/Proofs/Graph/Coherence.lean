import Interlink.DependencyGraph
import Interlink.Proofs.Accumulation
import Mathlib.Data.List.Nodup

/-!
# Coherence

A graph holds its edges three times: between the numbers of the arena, by the importer and by the imported
file. Whatever files and imports are added, the three stay one relation, whose ends are files of the graph.
-/

namespace Interlink.DependencyGraph

/-! ## Histories -/

inductive Addition where
  | file (source : SourceFile)
  | edge (importer file : String)

def Addition.path? : Addition → Option String
  | .file s => some s.path
  | .edge _ _ => none

def add (g : DependencyGraph) : Addition → DependencyGraph
  | .file s => g.addFile s
  | .edge a b => (g.addImport a b).2

def ofAdditions (cs : List Addition) : DependencyGraph := cs.foldl add .empty

/-! ## What the parts agree on -/

def Linked (g : DependencyGraph) (a b : String) : Prop :=
  ∃ m n, g.numbers.find? a = some m ∧ g.numbers.find? b = some n ∧ n ∈ g.arena.successors m

structure Coherent (g : DependencyGraph) : Prop where
  numbered {file n} : g.numbers.find? file = some n ↔ g.arena.label? n = some file
  sourced {file} : g.sources.contains file = g.contains file
  named {file s} : g.source? file = some s → s.path = file
  mirrored {a b} : b ∈ g.dependencies a ↔ a ∈ g.dependents b
  drawn {a b} : b ∈ g.dependencies a ↔ g.Linked a b
  within {e} : e ∈ g.arena.edges → e.1 < g.arena.size ∧ e.2 < g.arena.size
  simple : g.arena.edges.Nodup

theorem coherent_empty : Coherent empty where
  numbered := by simp [empty, Arena.label?]
  sourced := rfl
  named := by simp [empty, source?]
  mirrored := by simp [empty, dependencies, dependents]
  drawn := by simp [empty, dependencies, Linked]
  within := by simp [empty]
  simple := by simp [empty]

variable {g : DependencyGraph}

/-! ## Adding a file -/

theorem addFile_of_contains {s : SourceFile} (h : g.contains s.path = true) :
    g.addFile s = { g with sources := g.sources.insert s.path s } := by
  simp [addFile, h]

theorem addFile_of_not_contains {s : SourceFile} (h : g.contains s.path = false) :
    g.addFile s = { g with
      arena := g.arena.addNode s.path
      numbers := g.numbers.insert s.path g.arena.size
      sources := g.sources.insert s.path s } := by
  simp [addFile, h]

theorem contains_addFile {s : SourceFile} {file : String} :
    (g.addFile s).contains file = true ↔ file = s.path ∨ g.contains file = true := by
  cases h : g.contains s.path with
  | true =>
    rw [addFile_of_contains h]
    exact ⟨.inr, fun hf => hf.elim (fun e => e ▸ h) id⟩
  | false =>
    rw [addFile_of_not_contains h]
    exact Table.contains_insert

theorem source?_addFile {s : SourceFile} {file : String} :
    (g.addFile s).source? file = if file = s.path then some s else g.source? file := by
  have e : (g.addFile s).sources = g.sources.insert s.path s := by
    unfold addFile
    split <;> rfl
  rw [source?, e]
  exact Table.find?_insert

theorem Coherent.sources_insert (h : Coherent g) {s : SourceFile} :
    (∀ {file}, (g.addFile s).sources.contains file = (g.addFile s).contains file) ∧
      ∀ {file t}, (g.addFile s).source? file = some t → t.path = file := by
  constructor
  · intro file
    rw [Bool.eq_iff_iff, contains_addFile, Table.contains_eq_isSome, ← source?, source?_addFile]
    split
    · simp [*]
    · simp [*, source?, ← Table.contains_eq_isSome, h.sourced]
  · intro file t ht
    rw [source?_addFile] at ht
    split at ht
    · rename_i hf
      rw [hf, ← Option.some.inj ht]
    · exact h.named ht

theorem Coherent.numbered_addFile (h : Coherent g) {s : SourceFile} (hs : g.contains s.path = false)
    {file : String} {n : Nat} :
    (g.numbers.insert s.path g.arena.size).find? file = some n ↔
      (g.arena.addNode s.path).label? n = some file := by
  have hnone : g.numbers.find? s.path = none := by
    simpa [contains, Table.contains_eq_isSome] using hs
  have hlast : g.arena.label? g.arena.size = none := List.getElem?_eq_none (Nat.le_refl _)
  rw [Table.find?_insert, Arena.label?_addNode]
  by_cases hf : file = s.path <;> by_cases hn : n = g.arena.size
  · simp [hf, hn]
  · simp only [hf, hn, if_true, if_false, Option.some.injEq, Ne.symm hn, false_iff]
    rw [← h.numbered, hnone]
    simp
  · simp only [hf, hn, if_true, if_false, Option.some.injEq, Ne.symm hf, iff_false]
    rw [h.numbered, hlast]
    simp
  · simp only [hf, hn, if_false, h.numbered]

theorem Coherent.linked_addFile (h : Coherent g) {s : SourceFile} (hs : g.contains s.path = false)
    {a b : String} : (g.addFile s).Linked a b ↔ g.Linked a b := by
  -- an old edge never touches the new number
  have old {file : String} {n : Nat} (hn : n < g.arena.size) :
      (g.numbers.insert s.path g.arena.size).find? file = some n ↔ g.numbers.find? file = some n := by
    rw [h.numbered_addFile hs, Arena.label?_addNode, if_neg (Nat.ne_of_lt hn), h.numbered]
  rw [addFile_of_not_contains hs]
  simp only [Linked, Arena.mem_successors, Arena.addNode]
  constructor
  · intro hx
    obtain ⟨m, n, hm, hn, he⟩ := hx
    exact ⟨m, n, (old (h.within he).1).mp hm, (old (h.within he).2).mp hn, he⟩
  · intro hx
    obtain ⟨m, n, hm, hn, he⟩ := hx
    exact ⟨m, n, (old (h.within he).1).mpr hm, (old (h.within he).2).mpr hn, he⟩

theorem coherent_addFile (h : Coherent g) (s : SourceFile) : Coherent (g.addFile s) := by
  obtain ⟨sourced, named⟩ := h.sources_insert (s := s)
  cases hs : g.contains s.path with
  | true =>
    rw [addFile_of_contains hs] at sourced named ⊢
    exact { h with sourced, named }
  | false =>
    have drawn {a b : String} := h.drawn.trans (h.linked_addFile hs (a := a) (b := b)).symm
    rw [addFile_of_not_contains hs] at sourced named drawn ⊢
    exact {
      numbered := h.numbered_addFile hs
      sourced, named, drawn
      mirrored := h.mirrored
      within := fun he => by
        have := h.within he
        simp only [Arena.size, Arena.addNode, List.length_append, List.length_singleton] at this ⊢
        omega
      simple := h.simple }

/-! ## Adding an import -/

def connect (a b : String) (m n : Nat) (g : DependencyGraph) : DependencyGraph :=
  { g with
    imports := g.imports.upsert a .empty (·.insert b)
    importers := g.importers.upsert b .empty (·.insert a)
    arena := g.arena.addEdge m n }

theorem mem_dependencies_connect {a b x y : String} {m n : Nat} :
    y ∈ (g.connect a b m n).dependencies x ↔ y ∈ g.dependencies x ∨ (x = a ∧ y = b) :=
  Table.mem_upsert_insert

theorem mem_dependents_connect {a b x y : String} {m n : Nat} :
    x ∈ (g.connect a b m n).dependents y ↔ x ∈ g.dependents y ∨ (y = b ∧ x = a) :=
  Table.mem_upsert_insert

theorem upsert_imports_eq_self {a b : String} (h : b ∈ g.dependencies a) :
    g.imports.upsert a .empty (·.insert b) = g.imports := by
  cases hf : g.imports.find? a with
  | none => simp [dependencies, hf] at h
  | some files =>
    have hb : b ∈ files := by simpa [dependencies, hf] using h
    exact Table.upsert_eq_self hf (KeySet.insert_of_mem hb)

theorem addImport_cases (g : DependencyGraph) (a b : String) :
    (g.addImport a b = (false, g) ∧
        ¬ (g.contains a = true ∧ g.contains b = true ∧ b ∉ g.dependencies a)) ∨
      ∃ m n, g.numbers.find? a = some m ∧ g.numbers.find? b = some n ∧ b ∉ g.dependencies a ∧
        g.addImport a b = (true, g.connect a b m n) := by
  cases ha : g.numbers.find? a with
  | none =>
    have hc : g.contains a = false := by rw [contains, Table.contains_eq_isSome, ha]; rfl
    exact .inl ⟨by simp [addImport, ha], by simp [hc]⟩
  | some m =>
    cases hb : g.numbers.find? b with
    | none =>
      have hc : g.contains b = false := by rw [contains, Table.contains_eq_isSome, hb]; rfl
      exact .inl ⟨by simp [addImport, ha, hb], by simp [hc]⟩
    | some n =>
      by_cases hk : b ∈ g.dependencies a
      · refine .inl ⟨?_, fun h => h.2.2 hk⟩
        simp only [addImport, ha, hb, hk, decide_true, if_true, upsert_imports_eq_self hk]
      · refine .inr ⟨m, n, rfl, rfl, hk, ?_⟩
        simp only [addImport, ha, hb, hk, decide_false, Bool.false_eq_true, if_false]
        rfl

theorem Coherent.eq_of_number (h : Coherent g) {a b : String} {n : Nat} (ha : g.numbers.find? a = some n)
    (hb : g.numbers.find? b = some n) : a = b :=
  Option.some.inj ((h.numbered.mp ha).symm.trans (h.numbered.mp hb))

theorem addImport_frame {α : Type} (f : DependencyGraph → α)
    (hf : ∀ g arena imports importers, f { g with arena, imports, importers } = f g) (a b : String) :
    f (g.addImport a b).2 = f g := by
  rcases addImport_cases g a b with ⟨e, _⟩ | ⟨m, n, _, _, _, e⟩ <;> rw [e]
  exact hf ..

theorem Coherent.linked_connect (h : Coherent g) {a b x y : String} {m n : Nat}
    (ha : g.numbers.find? a = some m) (hb : g.numbers.find? b = some n) :
    (g.connect a b m n).Linked x y ↔ g.Linked x y ∨ (x = a ∧ y = b) := by
  simp only [Linked, connect, Arena.mem_successors, Arena.addEdge, List.mem_append, List.mem_singleton,
    Prod.mk.injEq]
  constructor
  · intro hx
    rcases hx with ⟨i, j, hi, hj, he | ⟨rfl, rfl⟩⟩
    · exact .inl ⟨i, j, hi, hj, he⟩
    · exact .inr ⟨h.eq_of_number hi ha, h.eq_of_number hj hb⟩
  · intro hx
    rcases hx with ⟨i, j, hi, hj, he⟩ | ⟨rfl, rfl⟩
    · exact ⟨i, j, hi, hj, .inl he⟩
    · exact ⟨m, n, ha, hb, .inr ⟨rfl, rfl⟩⟩

theorem coherent_connect (h : Coherent g) {a b : String} {m n : Nat} (ha : g.numbers.find? a = some m)
    (hb : g.numbers.find? b = some n) (hnew : b ∉ g.dependencies a) : Coherent (g.connect a b m n) where
  numbered := h.numbered
  sourced := h.sourced
  named := h.named
  mirrored := by
    intro x y
    rw [mem_dependencies_connect, mem_dependents_connect, h.mirrored, and_comm (a := _ = a)]
  drawn := by
    intro x y
    rw [mem_dependencies_connect, h.drawn, h.linked_connect ha hb]
  within he := by
    rcases List.mem_append.mp he with he | he
    · exact h.within he
    · obtain rfl := List.mem_singleton.mp he
      exact ⟨Arena.lt_size_of_label? (h.numbered.mp ha), Arena.lt_size_of_label? (h.numbered.mp hb)⟩
  simple := by
    refine List.nodup_append.mpr ⟨h.simple, List.pairwise_singleton _ _, ?_⟩
    intro e he e' hmn same
    obtain rfl : e' = (m, n) := List.mem_singleton.mp hmn
    subst same
    exact hnew (h.drawn.mpr ⟨m, n, ha, hb, Arena.mem_successors.mpr he⟩)

theorem coherent_addImport (h : Coherent g) (a b : String) : Coherent (g.addImport a b).2 := by
  rcases addImport_cases g a b with ⟨e, _⟩ | ⟨m, n, ha, hb, hnew, e⟩
  · rw [e]
    exact h
  · rw [e]
    exact coherent_connect h ha hb hnew

/-! ## Any history -/

theorem coherent_add (h : Coherent g) : ∀ c : Addition, Coherent (g.add c)
  | .file s => coherent_addFile h s
  | .edge a b => coherent_addImport h a b

theorem coherent_ofAdditions (cs : List Addition) : Coherent (ofAdditions cs) :=
  List.foldlRecOn (motive := Coherent) cs add coherent_empty fun _ h c _ => coherent_add h c

/-! ## Counts -/

theorem mem_files {file : String} : file ∈ g.files ↔ g.sources.contains file = true := Table.mem_keys

theorem nodup_files : g.files.Nodup := g.sources.keySet.nodup_toList

theorem nodup_edges : g.edges.Nodup := by
  refine List.nodup_flatMap.mpr ⟨fun e _ => ?_, ?_⟩
  · exact e.2.nodup_toList.map fun _ _ h => (Prod.mk.inj h).2
  · refine g.imports.sorted.imp fun {a b} hab => ?_
    intro e hx hy
    obtain ⟨x, y⟩ := e
    obtain ⟨_, _, hx⟩ := List.mem_map.mp hx
    obtain ⟨_, _, hy⟩ := List.mem_map.mp hy
    have e : a.1 = b.1 := (Prod.mk.inj hx).1.trans (Prod.mk.inj hy).1.symm
    exact String.lt_irrefl b.1 (e ▸ hab)

theorem Coherent.mem_labels (h : Coherent g) {file : String} :
    file ∈ g.arena.labels ↔ g.contains file = true := by
  rw [contains, Table.contains_eq_isSome, Option.isSome_iff_exists, List.mem_iff_getElem?]
  exact exists_congr fun n => h.numbered.symm

theorem Coherent.nodup_labels (h : Coherent g) : g.arena.labels.Nodup := by
  refine List.nodup_iff_getElem?_ne_getElem?.mpr fun i j hij hj e => ?_
  have hlt : i < g.arena.labels.length := Nat.lt_trans hij hj
  have hi : g.arena.label? i = some g.arena.labels[i] := List.getElem?_eq_getElem hlt
  have same := (h.numbered.mpr hi).symm.trans (h.numbered.mpr (e.symm.trans hi))
  exact absurd (Option.some.inj same) (Nat.ne_of_lt hij)

theorem Coherent.nodeCount_eq (h : Coherent g) : g.nodeCount = g.files.length := by
  refine List.Perm.length_eq ((List.perm_ext_iff_of_nodup h.nodup_labels nodup_files).mpr fun file => ?_)
  rw [h.mem_labels, mem_files, h.sourced]

theorem Coherent.linked_of_mem_edges (h : Coherent g) {m n : Nat} (he : (m, n) ∈ g.arena.edges) :
    ∃ a b, g.arena.label? m = some a ∧ g.arena.label? n = some b ∧ g.Linked a b := by
  obtain ⟨hm, hn⟩ := h.within he
  have ha := List.getElem?_eq_getElem hm
  have hb := List.getElem?_eq_getElem hn
  exact ⟨_, _, ha, hb, m, n, h.numbered.mpr ha, h.numbered.mpr hb, Arena.mem_successors.mpr he⟩

theorem Coherent.edgeCount_eq (h : Coherent g) : g.edgeCount = g.edges.length := by
  -- both sides as lists of pairs of numbers
  let key : String × String → Option Nat × Option Nat := fun p => (g.numbers.find? p.1, g.numbers.find? p.2)
  let arenaKeys := g.arena.edges.map (Prod.map some some)
  have hnodup : arenaKeys.Nodup := h.simple.map fun _ _ e => by simpa [Prod.ext_iff] using e
  have hkeys : (g.edges.map key).Nodup := by
    refine nodup_edges.map_on ?_
    intro p hab q _ e
    obtain ⟨a, b⟩ := p
    obtain ⟨c, d⟩ := q
    obtain ⟨m, n, hm, hn, _⟩ := h.drawn.mp (mem_edges.mp hab)
    obtain ⟨e₁, e₂⟩ := Prod.mk.inj e
    rw [h.eq_of_number hm (e₁.symm.trans hm), h.eq_of_number hn (e₂.symm.trans hn)]
  have hperm : arenaKeys.Perm (g.edges.map key) := by
    refine (List.perm_ext_iff_of_nodup hnodup hkeys).mpr fun k => ?_
    simp only [arenaKeys, List.mem_map, Prod.exists]
    constructor
    · intro hx
      obtain ⟨m, n, he, rfl⟩ := hx
      obtain ⟨a, b, ha, hb, hab⟩ := h.linked_of_mem_edges he
      refine ⟨a, b, mem_edges.mpr (h.drawn.mpr hab), ?_⟩
      simp only [key, h.numbered.mpr ha, h.numbered.mpr hb, Prod.map]
    · intro hx
      obtain ⟨a, b, hab, rfl⟩ := hx
      obtain ⟨m, n, hm, hn, he⟩ := h.drawn.mp (mem_edges.mp hab)
      exact ⟨m, n, Arena.mem_successors.mp he, by simp only [key, hm, hn, Prod.map]⟩
  simpa [arenaKeys, edgeCount] using hperm.length_eq

theorem contains_ofAdditions (cs : List Addition) {file : String} :
    (ofAdditions cs).contains file = true ↔ file ∈ cs.filterMap Addition.path? := by
  have one (g : DependencyGraph) (c : Addition) :
      (g.add c).contains file = true ↔ g.contains file = true ∨ c.path? = some file := by
    cases c with
    | file s => rw [add, contains_addFile, Addition.path?, Option.some.injEq, or_comm, eq_comm (a := file)]
    | edge a b =>
      have e : (g.addImport a b).2.numbers = g.numbers :=
        addImport_frame numbers (fun _ _ _ _ => rfl) a b
      simp [add, Addition.path?, contains, e]
  have all := foldl_adds (P := fun g => g.contains file = true) one cs empty
  rw [ofAdditions, all, List.mem_filterMap]
  simp [empty, contains, Table.contains_eq_isSome]

theorem files_ofAdditions (cs : List Addition) :
    (ofAdditions cs).files = (KeySet.ofList (cs.filterMap Addition.path?)).toList := by
  suffices (ofAdditions cs).sources.keySet = KeySet.ofList (cs.filterMap Addition.path?) from
    congrArg KeySet.toList this
  refine KeySet.ext_mem fun file => ?_
  rw [Table.mem_keySet, (coherent_ofAdditions cs).sourced, contains_ofAdditions, KeySet.mem_ofList]

/-! ## What one addition does -/

def IsFile (g : DependencyGraph) (file : String) : Prop :=
  g.contains file = true ∧ ∃ s, g.source? file = some s ∧ s.path = file

theorem Coherent.isFile (h : Coherent g) {file : String} (hf : g.contains file = true) : g.IsFile file := by
  refine ⟨hf, ?_⟩
  rw [← h.sourced, Table.contains_eq_isSome, Option.isSome_iff_exists] at hf
  obtain ⟨s, hs⟩ := hf
  exact ⟨s, hs, h.named hs⟩

theorem Coherent.isFile_of_linked (h : Coherent g) {a b : String} (hab : g.Linked a b) :
    g.IsFile a ∧ g.IsFile b := by
  obtain ⟨m, n, hm, hn, _⟩ := hab
  exact ⟨h.isFile (Table.contains_of_find? hm), h.isFile (Table.contains_of_find? hn)⟩

theorem addImport_eq_self (a b : String) (hno : (g.addImport a b).1 = false) : (g.addImport a b).2 = g := by
  rcases addImport_cases g a b with ⟨e, _⟩ | ⟨_, _, _, _, _, e⟩
  · rw [e]
  · rw [e] at hno
    cases hno

theorem addImport_fst {a b : String} :
    (g.addImport a b).1 = true ↔ g.contains a = true ∧ g.contains b = true ∧ b ∉ g.dependencies a := by
  rcases addImport_cases g a b with ⟨e, hno⟩ | ⟨m, n, ha, hb, hnew, e⟩
  · rw [e]
    exact ⟨nofun, fun h => absurd h hno⟩
  · rw [e]
    exact ⟨fun _ => ⟨Table.contains_of_find? ha, Table.contains_of_find? hb, hnew⟩, fun _ => rfl⟩

structure OneMore (g g' : DependencyGraph) (a b : String) : Prop where
  fresh : b ∉ g.dependencies a
  dependencies {x y} : y ∈ g'.dependencies x ↔ y ∈ g.dependencies x ∨ (x = a ∧ y = b)
  dependents {x y} : x ∈ g'.dependents y ↔ x ∈ g.dependents y ∨ (x = a ∧ y = b)
  linked {x y} : g'.Linked x y ↔ g.Linked x y ∨ (x = a ∧ y = b)
  edgeCount : g'.edgeCount = g.edgeCount + 1
  labels : g'.arena.labels = g.arena.labels
  rest : { g' with arena := g.arena, imports := g.imports, importers := g.importers } = g

theorem Coherent.oneMore (h : Coherent g) (a b : String) (hyes : (g.addImport a b).1 = true) :
    OneMore g (g.addImport a b).2 a b := by
  rcases addImport_cases g a b with ⟨e, _⟩ | ⟨m, n, ha, hb, hnew, e⟩
  · rw [e] at hyes
    cases hyes
  · rw [e]
    exact {
      fresh := hnew
      dependencies := mem_dependencies_connect
      dependents := by
        intro x y
        rw [mem_dependents_connect, and_comm (a := x = a)]
      linked := h.linked_connect ha hb
      edgeCount := by simp [edgeCount, connect, Arena.addEdge]
      labels := rfl
      rest := rfl }

structure Renewed (g g' : DependencyGraph) (s : SourceFile) : Prop where
  source : g'.source? s.path = some s
  others {file} : file ≠ s.path → g'.source? file = g.source? file
  files : g'.files = g.files
  rest : { g' with sources := g.sources } = g

theorem Coherent.renewed (h : Coherent g) (s : SourceFile) (hs : g.contains s.path = true) :
    Renewed g (g.addFile s) s where
  source := by rw [source?_addFile, if_pos rfl]
  others hne := by rw [source?_addFile, if_neg hne]
  files := by
    suffices (g.addFile s).sources.keySet = g.sources.keySet from congrArg KeySet.toList this
    refine KeySet.ext_mem fun file => ?_
    rw [Table.mem_keySet, Table.mem_keySet, h.sourced, (coherent_addFile h s).sourced, contains_addFile,
      or_iff_right_iff_imp]
    intro e
    subst e
    exact hs
  rest := by rw [addFile_of_contains hs]

/-! ## The graph after any additions -/

/-- Whatever was added in whatever order, all parts of the graph hold the same edges, each once and between
files of the graph; the counts are true; and the next addition does what it says or nothing. -/
theorem ofAdditions_coheres (cs : List Addition) :
    let g := ofAdditions cs
    (∀ a b, (b ∈ g.dependencies a ↔ a ∈ g.dependents b) ∧ (b ∈ g.dependencies a ↔ g.Linked a b)) ∧
    g.arena.edges.Nodup ∧
    (∀ m n, (m, n) ∈ g.arena.edges → ∃ a b, g.arena.label? m = some a ∧ g.arena.label? n = some b ∧
      (a, b) ∈ g.edges ∧ g.IsFile a ∧ g.IsFile b) ∧
    (∀ a b, (a, b) ∈ g.edges ↔ b ∈ g.dependencies a) ∧
    g.nodeCount = (KeySet.ofList (cs.filterMap Addition.path?)).size ∧
    g.edgeCount = g.edges.length ∧ g.edges.Nodup ∧
    (∀ a b, (g.addImport a b).1 = true ↔
      g.contains a = true ∧ g.contains b = true ∧ b ∉ g.dependencies a) ∧
    (∀ a b, (g.addImport a b).1 = false → (g.addImport a b).2 = g) ∧
    (∀ a b, (g.addImport a b).1 = true → OneMore g (g.addImport a b).2 a b) ∧
    ∀ s, g.contains s.path = true → Renewed g (g.addFile s) s := by
  intro g
  have h : Coherent g := coherent_ofAdditions cs
  refine ⟨fun a b => ⟨h.mirrored, h.drawn⟩, h.simple, fun m n he => ?_, fun _ _ => mem_edges, ?_, h.edgeCount_eq,
    nodup_edges, fun _ _ => addImport_fst, addImport_eq_self, h.oneMore, h.renewed⟩
  · obtain ⟨a, b, ha, hb, hab⟩ := h.linked_of_mem_edges he
    exact ⟨a, b, ha, hb, mem_edges.mpr (h.drawn.mpr hab), h.isFile_of_linked hab⟩
  · rw [h.nodeCount_eq, files_ofAdditions]
    rfl

end Interlink.DependencyGraph
