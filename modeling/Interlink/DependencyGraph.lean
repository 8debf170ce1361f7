import Interlink.Reach
import Interlink.Resolver
import Interlink.Scan

/-!
# The dependency graph

Which files import which. A file is known by its path and, in the arena that searches run on, by a number.
Edges stand in the arena, in the files that each file imports and in the files that import each file;
`addFile` and `addImport` change all of these together.
-/

namespace Interlink

/-! ## Arenas -/

structure Arena where
  /-- The labels of the nodes, where the node `n` has the `n`-th. -/
  labels : List String := []
  edges : List (Nat × Nat) := []
deriving DecidableEq, Repr

namespace Arena

def size (a : Arena) : Nat := a.labels.length

def nodes (a : Arena) : List Nat := List.range a.size

def label? (a : Arena) (n : Nat) : Option String := a.labels[n]?

def successors (a : Arena) (n : Nat) : List Nat := (a.edges.filter (·.1 = n)).map (·.2)

/-- The arena with one more node, whose number is the size so far. -/
def addNode (label : String) (a : Arena) : Arena := { a with labels := a.labels ++ [label] }

def addEdge (m n : Nat) (a : Arena) : Arena := { a with edges := a.edges ++ [(m, n)] }

@[simp] theorem mem_nodes {a : Arena} {n : Nat} : n ∈ a.nodes ↔ n < a.size := List.mem_range

@[simp] theorem mem_successors {a : Arena} {m n : Nat} : n ∈ a.successors m ↔ (m, n) ∈ a.edges := by
  simp [successors]

theorem lt_size_of_label? {a : Arena} {n : Nat} {label : String} (h : a.label? n = some label) : n < a.size :=
  (List.getElem?_eq_some_iff.mp h).1

theorem label?_addNode {a : Arena} {label : String} {n : Nat} :
    (a.addNode label).label? n = if n = a.size then some label else a.label? n := by
  simp only [label?, addNode]
  rcases Nat.lt_trichotomy n a.size with h | rfl | h
  · rw [if_neg (Nat.ne_of_lt h), List.getElem?_append_left h]
  · rw [if_pos rfl]
    exact List.getElem?_concat_length
  · have hlen : (a.labels ++ [label]).length ≤ n := List.length_append ▸ h
    rw [if_neg (Nat.ne_of_gt h), List.getElem?_eq_none hlen, List.getElem?_eq_none (Nat.le_of_lt h)]

end Arena

/-! ## Graphs -/

/-- An import that means no file of the project. -/
structure OpenImport where
  specifier : String
  line : Nat
deriving DecidableEq, Repr

def OpenImport.ofFact (i : ImportFact) : OpenImport := ⟨i.specifier, i.line⟩

structure DependencyGraph where
  arena : Arena := {}
  numbers : Table Nat := .empty
  sources : Table SourceFile := .empty
  imports : Table KeySet := .empty
  importers : Table KeySet := .empty
  /-- Imports of packages, in the order of the text. -/
  packageImports : Table (List OpenImport) := .empty
  /-- Imports of paths at which there is no file, in the order of the text. -/
  danglingImports : Table (List OpenImport) := .empty
  exportFacts : Table (List ExportFact) := .empty
deriving DecidableEq

namespace DependencyGraph

def empty : DependencyGraph := {}

/-! ## Queries -/

def contains (g : DependencyGraph) (file : String) : Bool := g.numbers.contains file

def source? (g : DependencyGraph) (file : String) : Option SourceFile := g.sources.find? file

def files (g : DependencyGraph) : List String := g.sources.keys

def dependencies (g : DependencyGraph) (file : String) : KeySet := (g.imports.find? file).getD .empty

def dependents (g : DependencyGraph) (file : String) : KeySet := (g.importers.find? file).getD .empty

def exports (g : DependencyGraph) (file : String) : List ExportFact := (g.exportFacts.find? file).getD []

def external (g : DependencyGraph) (file : String) : List OpenImport := (g.packageImports.find? file).getD []

def unresolved (g : DependencyGraph) (file : String) : List OpenImport := (g.danglingImports.find? file).getD []

def edges (g : DependencyGraph) : List (String × String) :=
  g.imports.toList.flatMap fun e => e.2.toList.map (e.1, ·)

theorem mem_edges {g : DependencyGraph} {a b : String} : (a, b) ∈ g.edges ↔ b ∈ g.dependencies a := by
  simp only [edges, List.mem_flatMap, List.mem_map, Prod.mk.injEq, Prod.exists]
  constructor
  · intro hx
    obtain ⟨_, files, hm, _, hb, rfl, rfl⟩ := hx
    simpa [dependencies, Table.find?_eq_some.mpr hm] using hb
  · intro hb
    cases hf : g.imports.find? a with
    | none => simp [dependencies, hf] at hb
    | some files => exact ⟨a, files, Table.find?_eq_some.mp hf, b, by simpa [dependencies, hf] using hb, rfl, rfl⟩

def nodeCount (g : DependencyGraph) : Nat := g.arena.size

def edgeCount (g : DependencyGraph) : Nat := g.arena.edges.length

def packages (g : DependencyGraph) : Table KeySet :=
  (g.packageImports.toList.flatMap fun e => e.2.map fun i => (i.specifier, e.1)).foldl
    (fun t p => t.upsert p.1 .empty (·.insert p.2)) .empty

def importCycles (g : DependencyGraph) : List (List String) :=
  ((cycleGroups g.arena.nodes g.arena.successors).map fun group =>
    (group.filterMap g.arena.label?).mergeSort (· ≤ ·)).mergeSort listPrecedes

structure FileNode where
  source : SourceFile
  dependencies : KeySet
  dependents : KeySet
  external : List OpenImport
  exports : List ExportFact

def nodeOf (g : DependencyGraph) (file : String) (source : SourceFile) : FileNode where
  source
  dependencies := g.dependencies file
  dependents := g.dependents file
  external := g.external file
  exports := g.exports file

def node? (g : DependencyGraph) (file : String) : Option FileNode := (g.source? file).map (g.nodeOf file)

def nodes (g : DependencyGraph) : Table FileNode := g.sources.mapValues g.nodeOf

/-! ## Additions -/

/-- The graph with a file. A file that it has keeps all but its language and role. -/
def addFile (source : SourceFile) (g : DependencyGraph) : DependencyGraph :=
  let g :=
    if g.contains source.path then g
    else { g with
      arena := g.arena.addNode source.path
      numbers := g.numbers.insert source.path g.arena.size }
  { g with sources := g.sources.insert source.path source }

/-- The graph with an import, and whether the import is new. Both files must be in the graph. -/
def addImport (importer file : String) (g : DependencyGraph) : Bool × DependencyGraph :=
  match g.numbers.find? importer, g.numbers.find? file with
  | some m, some n =>
    let known : Bool := file ∈ g.dependencies importer
    let g := { g with imports := g.imports.upsert importer .empty (·.insert file) }
    if known then (false, g)
    else (true, { g with
      importers := g.importers.upsert file .empty (·.insert importer)
      arena := g.arena.addEdge m n })
  | _, _ => (false, g)

def addImport? (importer file : String) (g : DependencyGraph) : Option DependencyGraph :=
  match g.addImport importer file with
  | (true, g) => some g
  | (false, _) => none

/-! ## Construction -/

def addResolved (file : String) (i : ImportFact) (r : Resolution) (g : DependencyGraph) : DependencyGraph :=
  match r with
  | .internal targets => targets.foldl (fun g target => (g.addImport file target).2) g
  | .external => { g with packageImports := g.packageImports.upsert file [] (· ++ [.ofFact i]) }
  | .unresolved => { g with danglingImports := g.danglingImports.upsert file [] (· ++ [.ofFact i]) }

def language? (g : DependencyGraph) (languages : LanguageSet) (file : String) : Option Language :=
  (g.source? file).bind fun s => languages.named? s.language

/-- The graph with the facts that stand under the path of a file. Imports are resolved against that
path, and count only where the file's language is known. -/
def addFacts (resolver : Resolver) (languages : LanguageSet) (file : String) (facts : FileFacts)
    (g : DependencyGraph) : DependencyGraph :=
  if g.contains file then
    let g := { g with exportFacts := g.exportFacts.insert file facts.exports }
    match g.language? languages file with
    | some l => facts.imports.foldl (fun g i => g.addResolved file i (resolver.resolve l file i)) g
    | none => g
  else g

/-- The graph of files that import nothing. Of two sources of one path the later one counts. -/
def ofSources (sources : List SourceFile) : DependencyGraph := sources.foldl (fun g s => g.addFile s) .empty

def resolverOf (config : ResolveConfig) (sources : List SourceFile) : Resolver :=
  ⟨.ofList (sources.map (·.path)), config⟩

/-- The graph of source files, so far as there are facts of them. -/
def ofFacts (config : ResolveConfig) (languages : LanguageSet) (sources : List SourceFile)
    (facts : Table FileFacts) : DependencyGraph :=
  facts.toList.foldl (fun g e => g.addFacts (resolverOf config sources) languages e.1 e.2) (ofSources sources)

def ofScan (config : ResolveConfig) (languages : LanguageSet) (scan : Scan) : DependencyGraph :=
  ofFacts config languages scan.sources scan.facts

end DependencyGraph

end Interlink
