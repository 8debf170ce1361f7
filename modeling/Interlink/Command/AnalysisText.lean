import Interlink.Analysis
import Interlink.Command.EntryText

/-!
# Analyses as text

The lines that are printed for what an analysis finds.
-/

namespace Interlink

open Text

def Report.lines (r : Report) : List String :=
  let errors := r.errorCount
  let warnings := r.warningCount
  r.map Finding.text ++ (if r.isEmpty then [] else [""]) ++
    [if errors = 0 then
      if warnings = 0 then "No problems found." else toString warnings ++ " warning(s)"
    else toString errors ++ " error(s), " ++ toString warnings ++ " warning(s)"]

def Coverage.lines (c : Coverage) : List String :=
  if c.orphans.isEmpty then
    ["Every export is reachable from documentation (" ++ toString c.seeds.size ++ " seed file(s), " ++
      toString c.reachable.size ++ " reached)."]
  else
    c.orphanFiles.toList.flatMap (fun file =>
      file :: (c.orphans.filter (·.file = file)).map fun o => "  " ++ exportLine o.name o.kind o.line)
    ++ ["", toString c.orphans.length ++ " orphaned export(s) in " ++ toString c.orphanFiles.size ++ " file(s)"]

namespace Glossary

def Registry.searchLines (r : Registry) (query : String) : List String :=
  match r.search query with
  | [] => ["No terms match '" ++ query ++ "'."]
  | found => (found.mapIdx fun n d =>
      [toString (n + 1) ++ ". " ++ d.name ++ " [" ++ d.kind.name ++ "] " ++ d.file ++ ":" ++ toString d.line,
        "   " ++ shortened 120 d.definition]).flatten

def row (term kind scope uses place : String) : String :=
  padEnd 30 term ++ " " ++ padEnd 10 kind ++ " " ++ padEnd 9 scope ++ " " ++ padStart 5 uses ++ "  " ++ place

def listedBefore (a b : Term) : Bool :=
  if a.name ≠ b.name then a.name < b.name else a.definition.file ≤ b.definition.file

def Analysis.lines (a : Analysis) : List String :=
  let terms := a.registry.terms.mergeSort listedBefore
  let problems := a.report.findings.errorCount
  if terms.isEmpty then ["No terms defined."]
  else
    [row "TERM" "KIND" "SCOPE" "USES" "DEFINED AT"]
    ++ terms.map (fun t =>
      row t.name t.definition.kind.name t.definition.scope.name (toString (a.report.useCount t)) t.location.text)
    ++ if problems = 0 then []
      else ["", toString problems ++ " term error(s); run \x60docgraph validate\x60 for details"]

end Glossary

namespace DependencyGraph

def dependencyLines (g : DependencyGraph) (file : String) : List String :=
  let openLine (what : String) (i : OpenImport) : String :=
    "  " ++ i.specifier ++ " (" ++ what ++ ", line " ++ toString i.line ++ ")"
  match (g.dependencies file).toList.map ("  " ++ ·) ++ (g.external file).map (openLine "external")
      ++ (g.unresolved file).map (openLine "unresolved") with
  | [] => [file ++ " imports nothing"]
  | lines => (file ++ " imports:") :: lines

def dependentLines (g : DependencyGraph) (file : String) : List String :=
  match (g.dependents file).toList.map ("  " ++ ·) with
  | [] => [file ++ " imported by nothing"]
  | lines => (file ++ " imported by:") :: lines

def cycleLines (g : DependencyGraph) : List String :=
  match g.importCycles with
  | [] => ["No import cycles."]
  | cycles =>
    cycles.mapIdx (fun n cycle => toString (n + 1) ++ ". " ++ join " <-> " cycle)
    ++ ["", toString cycles.length ++ " cycle(s)"]

end DependencyGraph

def Analysis.buildLines (snapshotPath : String) (a : Analysis) : List String :=
  let s := a.index.stats
  let failures := a.scan.failures.length
  let warnings := a.warnings.length
  ["Reference index written to " ++ snapshotPath,
    "  " ++ toString s.features ++ " features, " ++ toString s.codeFiles ++ " code files (" ++
      toString s.documentedCodeFiles ++ " documented), " ++ toString s.importEdges ++ " import edges",
    "  " ++ toString s.interfaces ++ " interfaces, " ++ toString s.terms ++ " terms, " ++ toString s.termUses ++
      " term references"]
  ++ if failures = 0 ∧ warnings = 0 then []
    else ["  " ++ toString failures ++ " file(s) failed extraction, " ++ toString warnings ++
      " metadata warning(s); run \x60docgraph validate\x60 for details"]

end Interlink
