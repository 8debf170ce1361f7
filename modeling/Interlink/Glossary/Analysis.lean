import Interlink.Glossary.Document
import Interlink.Glossary.Validation

/-!
# The terms of a set of documents
-/

namespace Interlink.Glossary

structure Analysis where
  documents : List Document
  registry : Registry
  report : TermReport

/-- Reads the documents, given as paths with their texts, registers their definitions in order and
validates their references. The warnings of the documents come after the findings of the rules. -/
def analyze (config : TermsConfig) (texts : List (String × String)) : Analysis :=
  let documents := texts.map fun (path, text) => Document.parse config path text
  let registry := Registry.ofList (documents.flatMap (·.definitions))
  let report := registry.validate config.rules (documents.flatMap (·.references))
  { documents, registry
    report := { report with findings := report.findings ++ documents.flatMap (·.warnings) } }

end Interlink.Glossary
