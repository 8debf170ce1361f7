import Interlink.DependencyGraph

/-!
# Coverage

A file is covered when a document names it or when a covered file imports it. What the other files
export are orphans.
-/

namespace Interlink

structure Orphan where
  file : String
  name : String
  kind : ExportKind
  line : Nat
deriving DecidableEq, Repr

structure Coverage where
  /-- The files that documents name, known to the graph or not. -/
  seeds : KeySet
  reachable : KeySet
  /-- In the order of files and then of names. -/
  orphans : List Orphan
deriving DecidableEq

namespace Coverage

def orphanFiles (c : Coverage) : KeySet := .ofList (c.orphans.map (·.file))

def orphansIn (g : DependencyGraph) (file : String) : List Orphan :=
  (g.exports file).map fun e => ⟨file, e.name, e.kind, e.line⟩

def counts (g : DependencyGraph) (includeTests : Bool) (file : String) : Bool :=
  includeTests || !(g.source? file).any (·.role = .test)

def precedes (a b : Orphan) : Bool := if a.file ≠ b.file then a.file < b.file else a.name ≤ b.name

def reachableFrom (g : DependencyGraph) (seeds : KeySet) : KeySet :=
  let reached := reachedFrom g.arena.nodes g.arena.successors (seeds.toList.filterMap g.numbers.find?)
  (KeySet.ofList (reached.filterMap g.arena.label?)).filter (· ∉ seeds)

def uncovered (g : DependencyGraph) (includeTests : Bool) (seeds reachable : KeySet) : List String :=
  g.files.filter fun file => file ∉ seeds ∧ file ∉ reachable ∧ counts g includeTests file

def ofGraph (includeTests : Bool) (g : DependencyGraph) (documented : List String) : Coverage :=
  let seeds := KeySet.ofList documented
  let reachable := reachableFrom g seeds
  { seeds, reachable
    orphans := ((uncovered g includeTests seeds reachable).flatMap (orphansIn g)).mergeSort precedes }

end Coverage

end Interlink
