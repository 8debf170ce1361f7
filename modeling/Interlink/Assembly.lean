import Interlink.DependencyGraph
import Interlink.Feature
import Interlink.Glossary.Analysis
import Interlink.Index

/-!
# Assembly of the index

The index of features, files, interfaces and terms. It starts from what each document and each file says of
itself; every relation between two entries is then recorded at both.
-/

namespace Interlink

open Text Glossary

/-! ## References to code -/

/-- The path that a reference means, without a `./` before it or a slash after it. -/
def codePath (reference : String) : String :=
  trimEndOf '/' (String.ofList (Index.plainPath (trim reference.toList)))

def DependencyGraph.filesAt (g : DependencyGraph) (reference : String) : List String :=
  let path := codePath reference
  if path.isEmpty then []
  else if g.contains path then [path]
  else g.files.filter fun file => startsWith file (path ++ "/")

structure Assembly where
  graph : DependencyGraph
  terms : Analysis
  roles : List (DocFile × DocRole)

namespace Assembly

def features (a : Assembly) : Table Feature := Feature.table a.roles

/-! ## What documents say -/

def termsDefined (a : Assembly) (doc : String) : KeySet :=
  .ofList ((a.terms.registry.definitions.filter (·.file = doc)).map Definition.key)

def termsUsed (a : Assembly) (doc : String) : KeySet :=
  .ofList ((a.terms.report.mentions.filter (·.reference.file = doc)).filterMap fun m =>
    m.meaning.term?.map (·.definition.key))

def draft (a : Assembly) (f : Feature) : FeatureEntry where
  docPath := f.path
  title? := f.front.title?
  entryPoint? := f.front.entryPoint?
  codeUsed := .ofList (f.codeRefs.flatMap a.graph.filesAt)
  codeUsedBy := .empty
  related := .empty
  provided := .ofList f.front.provides
  used := .ofList f.front.uses
  sharedTypes := .ofList f.front.sharedTypes
  termsDefined := a.termsDefined f.path
  termsUsed := a.termsUsed f.path

def importersOf (a : Assembly) (used : KeySet) : KeySet :=
  .ofList (used.toList.flatMap fun file => (a.graph.dependents file).toList.filter (· ∉ used))

/-- The entry of a feature but for its relations to other features. -/
def entry (a : Assembly) (f : Feature) : FeatureEntry :=
  { a.draft f with codeUsedBy := a.importersOf (a.draft f).codeUsed }

def codeEntry (n : DependencyGraph.FileNode) : CodeEntry where
  language := n.source.language
  role := n.source.role
  documentedIn := .empty
  imports := n.dependencies
  importedBy := n.dependents
  exports := n.exports
  externalImports := .ofList (n.external.map (·.specifier))

def usePrecedes (a b : TermUse) : Bool :=
  if a.file ≠ b.file then a.file < b.file else if a.line ≠ b.line then a.line < b.line else a.text ≤ b.text

def termUses (a : Assembly) (t : Term) : List TermUse :=
  ((a.terms.report.uses t).map fun x => (⟨x.file, x.line, x.text⟩ : TermUse)).mergeSort usePrecedes

def termEntry (a : Assembly) (t : Term) : TermEntry where
  name := t.definition.name
  id := t.definition.id
  kind := t.definition.kind
  scope := t.definition.scope
  aliases := t.definition.aliases
  related := t.definition.related
  definition := t.definition.definition
  file := t.definition.file
  line := t.definition.line
  uses := a.termUses t
  useCount := (a.termUses t).length

/-! ## Relations -/

def document (id : String) (code : Table CodeEntry) (file : String) : Table CodeEntry :=
  code.modify file fun c => { c with documentedIn := c.documentedIn.insert id }

def provide (id : String) (types : KeySet) (interfaces : Table InterfaceEntry) (name : String) :
    Table InterfaceEntry :=
  interfaces.upsert name .empty fun i =>
    { i with providers := i.providers.insert id, sharedTypes := i.sharedTypes.union types }

def consume (id : String) (interfaces : Table InterfaceEntry) (name : String) : Table InterfaceEntry :=
  interfaces.upsert name .empty fun i => { i with users := i.users.insert id }

def relate (features : Table FeatureEntry) (p : String × String) : Table FeatureEntry :=
  (features.modify p.1 fun f => { f with related := f.related.insert p.2 }).modify p.2 fun f =>
    { f with related := f.related.insert p.1 }

/-- The features with the other features that they name as related, so far as there are such. -/
def relations (a : Assembly) : List (String × String) :=
  a.features.toList.flatMap fun e =>
    (e.2.front.related.filter fun other => other ≠ e.1 ∧ a.features.contains other).map (e.1, ·)

/-! ## The index -/

def blank (a : Assembly) (generatedAt : Timestamp) : Index where
  version := Index.currentVersion
  generatedAt
  features := .empty
  code := a.graph.nodes.mapValues fun _ n => codeEntry n
  interfaces := .empty
  terms := .ofList (a.terms.registry.terms.map fun t => (t.definition.key, a.termEntry t))
  packages := a.graph.packages

/-- The index with one more feature, which is recorded at the other ends of its relations too, those to
other features apart. -/
def record (a : Assembly) (ix : Index) (id : String) (f : Feature) : Index :=
  let entry := a.entry f
  { ix with
    features := ix.features.insert id entry
    code := entry.codeUsed.toList.foldl (document id) ix.code
    interfaces := entry.used.toList.foldl (consume id)
      (entry.provided.toList.foldl (provide id entry.sharedTypes) ix.interfaces) }

/-- The index with every feature, but without their relations to each other. -/
def recorded (a : Assembly) (generatedAt : Timestamp) : Index :=
  a.features.toList.foldl (fun ix e => a.record ix e.1 e.2) (a.blank generatedAt)

def index (a : Assembly) (generatedAt : Timestamp) : Index :=
  let ix := a.recorded generatedAt
  { ix with features := a.relations.foldl relate ix.features }

/-! ## Warnings -/

def warning (doc message : String) : Finding := ⟨.malformedMetadata, .warning, message, [.ofFile doc]⟩

def roleReport (a : Assembly) (d : DocFile) : DocRole → Report
  | .plain => []
  | .unreadable e => [warning d.path e.message]
  | .repeated id first => [warning d.path ("feature id '" ++ id ++ "' is already used by " ++ first)]
  | .feature _ f =>
    (f.codeRefs.filter fun r => (a.graph.filesAt r).isEmpty).map fun r =>
      warning d.path ("code reference '" ++ r ++ "' matches no scanned source file")

def relationReport (a : Assembly) (id : String) (f : Feature) : Report :=
  (f.front.related.filter fun other => other ≠ id ∧ !a.features.contains other).map fun other =>
    warning f.path ("feature '" ++ id ++ "' relates to unknown feature '" ++ other ++ "'")

def warnings (a : Assembly) : Report :=
  (a.roles.flatMap fun (d, role) => a.roleReport d role)
    ++ a.features.toList.flatMap fun (id, f) => a.relationReport id f

end Assembly

end Interlink
