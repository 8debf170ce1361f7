import Interlink.Finding
import Interlink.Glossary.Definition
import Interlink.Path

/-!
# Configuration

The settings of a project, section by section. Every setting has a default.
-/

namespace Interlink

open Text

structure ScanConfig where
  /-- Directories of documents; none stands for the whole project. -/
  docsDirs : List String := []
  docExtensions : List String := ["md", "markdown"]
  exclude : List String := ["node_modules", "target"]
deriving DecidableEq, Repr

namespace ScanConfig

def isDoc (c : ScanConfig) (path : String) : Bool :=
  match cutLast? '.' path with
  | some (_, ext) =>
    c.docExtensions.contains ext &&
      (c.docsDirs.isEmpty || c.docsDirs.any fun dir => Path.isUnder path (trimEndOf '/' dir))
  | none => false

def isExcluded (c : ScanConfig) (path : String) : Bool :=
  c.exclude.any fun dir => Path.isUnder path (trimEndOf '/' dir)

end ScanConfig

structure ResolveConfig where
  /-- Endings tried after the path itself. -/
  extensions : List String := [".ts", ".tsx", ".js", ".jsx", ".mjs", ".cjs", ".py"]
  /-- Files that stand for their directory. -/
  indexFiles : List String := ["index.ts", "index.tsx", "index.js", "index.jsx", "__init__.py"]
deriving DecidableEq, Repr

structure TermRules where
  uniqueness : RuleLevel := .error
  completeness : RuleLevel := .error
  scope : RuleLevel := .warning
  acyclicity : RuleLevel := .warning
  liveness : RuleLevel := .warning
deriving DecidableEq, Repr

structure TermsConfig where
  headingLevel : Nat := 3
  /-- Documents whose definitions are global unless they say otherwise. -/
  glossaryPaths : List String := ["glossary.md", "docs/glossary.md"]
  defaultScope : TermScope := .global
  rules : TermRules := {}
deriving DecidableEq, Repr

namespace TermsConfig

def isGlossary (c : TermsConfig) (path : String) : Bool := c.glossaryPaths.contains path

def scopeFor (c : TermsConfig) (path : String) : TermScope :=
  if c.isGlossary path then .global else c.defaultScope

end TermsConfig

structure Config where
  scan : ScanConfig := {}
  resolve : ResolveConfig := {}
  terms : TermsConfig := {}
  snapshotPath : String := ".docgraph/index.json"
  includeTests : Bool := false
deriving DecidableEq, Repr

def Config.snapshotIn (c : Config) (root : String) : String := Path.joined root c.snapshotPath

end Interlink
