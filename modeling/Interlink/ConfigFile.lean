import Interlink.Config
import Interlink.Failure
import Interlink.Toml.Reader

/-!
# Configuration files

Settings as a text in TOML, with a table for each section. What a text does not mention keeps its default,
and what is no setting is passed over.
-/

namespace Interlink

open Toml.Value (text boolean size list variant record)

def ScanConfig.record : Record Toml.Value ScanConfig :=
  let d : ScanConfig := {}
  ScanConfig.mk
    <$> .optional "docs_dirs" d.docsDirs (list text)
    <*> .optional "doc_extensions" d.docExtensions (list text)
    <*> .optional "exclude" d.exclude (list text)

def ResolveConfig.record : Record Toml.Value ResolveConfig :=
  let d : ResolveConfig := {}
  ResolveConfig.mk
    <$> .optional "extensions" d.extensions (list text)
    <*> .optional "index_files" d.indexFiles (list text)

def TermRules.record : Record Toml.Value TermRules :=
  let d : TermRules := {}
  let level := variant RuleLevel.all RuleLevel.name
  TermRules.mk
    <$> .optional "uniqueness" d.uniqueness level
    <*> .optional "completeness" d.completeness level
    <*> .optional "scope" d.scope level
    <*> .optional "acyclicity" d.acyclicity level
    <*> .optional "liveness" d.liveness level

def TermsConfig.record : Record Toml.Value TermsConfig :=
  let d : TermsConfig := {}
  TermsConfig.mk
    <$> .optional "definition_heading_level" d.headingLevel size
    <*> .optional "glossary_paths" d.glossaryPaths (list text)
    <*> .optional "default_scope" d.defaultScope (variant TermScope.all TermScope.name)
    <*> .optional "rules" d.rules (Toml.Value.record "struct TermRules" TermRules.record)

namespace Config

def indexRecord : Record Toml.Value String := .optional "snapshot_path" ({} : Config).snapshotPath text

def orphansRecord : Record Toml.Value Bool := .optional "include_tests" ({} : Config).includeTests boolean

def record : Record Toml.Value Config :=
  let d : Config := {}
  Config.mk
    <$> .optional "scan" d.scan (Toml.Value.record "struct ScanConfig" ScanConfig.record)
    <*> .optional "resolve" d.resolve (Toml.Value.record "struct ResolveConfig" ResolveConfig.record)
    <*> .optional "terms" d.terms (Toml.Value.record "struct TermsConfig" TermsConfig.record)
    <*> .optional "index" d.snapshotPath (Toml.Value.record "struct IndexConfig" indexRecord)
    <*> .optional "orphans" d.includeTests (Toml.Value.record "struct OrphanConfig" orphansRecord)

def ofText (s : String) : Except Failure Config :=
  match Toml.Value.ofText? s with
  | some v => (v.record "struct DocgraphConfig" record).mapError .config
  | none => .error (.config .malformed)

end Config

end Interlink
