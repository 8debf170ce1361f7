import Interlink.Assembly
import Interlink.Consistency
import Interlink.Coverage

/-!
# The analysis of a project

Everything that is found out about the files of a scan.
-/

namespace Interlink

structure Analysis where
  scan : Scan
  graph : DependencyGraph
  terms : Glossary.Analysis
  index : Index
  coverage : Coverage
  warnings : Report

namespace Analysis

def assemblyOf (config : Config) (languages : LanguageSet) (scan : Scan) : Assembly where
  graph := .ofScan config.resolve languages scan
  terms := Glossary.analyze config.terms (scan.docs.map fun d => (d.path, d.content))
  roles := DocRole.ofDocs scan.docs

/-- The analysis of a scan. The files that features name are covered. -/
def ofScan (config : Config) (languages : LanguageSet) (generatedAt : Timestamp) (scan : Scan) : Analysis :=
  let assembly := assemblyOf config languages scan
  let index := assembly.index generatedAt
  { scan, index
    graph := assembly.graph
    terms := assembly.terms
    coverage := .ofGraph config.includeTests assembly.graph (index.features.values.flatMap (·.codeUsed.toList))
    warnings := assembly.warnings }

def report (a : Analysis) : Report :=
  Report.sorted (a.scan.findings ++ a.warnings ++ a.terms.report.findings ++ a.index.validate)

end Analysis

end Interlink
