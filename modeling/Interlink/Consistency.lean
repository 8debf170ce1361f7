import Interlink.Finding
import Interlink.Index

/-!
# Consistency of an index

Relations that lack their other end, and interfaces that are not well covered by features.
-/

namespace Interlink.Consistency

open Text

variable (ix : Index)

/-! ## Relations -/

def oneSided (message : String) (file? : Option String) : Finding :=
  ⟨.indexInconsistency, .error, message, file?.toList.map Location.ofFile⟩

def failing (s : KeySet) (holds : String → Bool) (finding : String → Finding) : Report :=
  (s.toList.filter (!holds ·)).map finding

def ofFeatures (check : String → FeatureEntry → Report) : Report :=
  ix.features.toList.flatMap fun e => check e.1 e.2

def ofCode (check : String → CodeEntry → Report) : Report := ix.code.toList.flatMap fun e => check e.1 e.2

def ofInterfaces (check : String → InterfaceEntry → Report) : Report :=
  ix.interfaces.toList.flatMap fun e => check e.1 e.2

def document? (id : String) : Option String := (ix.features.find? id).map (·.docPath)

def uses (id file : String) : Bool := (ix.features.find? id).any (file ∈ ·.codeUsed)

def documents (file id : String) : Bool := (ix.code.find? file).any (id ∈ ·.documentedIn)

def imports (a b : String) : Bool := (ix.code.find? a).any (b ∈ ·.imports)

def importedBy (b a : String) : Bool := (ix.code.find? b).any (a ∈ ·.importedBy)

def relates (a b : String) : Bool := (ix.features.find? a).any (b ∈ ·.related)

def provides (id name : String) : Bool := (ix.features.find? id).any (name ∈ ·.provided)

def consumes (id name : String) : Bool := (ix.features.find? id).any (name ∈ ·.used)

def hasProvider (name id : String) : Bool := (ix.interfaces.find? name).any (id ∈ ·.providers)

def hasUser (name id : String) : Bool := (ix.interfaces.find? name).any (id ∈ ·.users)

def codeReport : Report :=
  (ofFeatures ix fun id f =>
    failing f.codeUsed (documents ix · id) fun file =>
      oneSided ("feature '" ++ id ++ "' uses " ++ file ++ ", but " ++ file ++ " does not list it")
        (some f.docPath))
  ++ ofCode ix fun file c =>
    failing c.documentedIn (uses ix · file) fun id =>
      oneSided (file ++ " claims feature '" ++ id ++ "', which does not use it") (some file)

def importReport : Report :=
  ofCode ix fun file c =>
    (failing c.imports (importedBy ix · file) fun target =>
      oneSided (file ++ " imports " ++ target ++ ", but " ++ target ++ " does not list it as importer")
        (some file))
    ++ failing c.importedBy (imports ix · file) fun importer =>
      oneSided (file ++ " lists " ++ importer ++ " as importer, but " ++ importer ++ " does not import it")
        (some file)

def relationReport : Report :=
  ofFeatures ix fun id f =>
    failing f.related (relates ix · id) fun other =>
      oneSided ("feature '" ++ id ++ "' relates to '" ++ other ++ "', but not the other way round")
        (some f.docPath)

def linkReport : Report :=
  (ofInterfaces ix fun name i =>
    (failing i.providers (provides ix · name) fun id =>
      oneSided ("interface '" ++ name ++ "' lists provider '" ++ id ++ "', which does not provide it")
        (document? ix id))
    ++ failing i.users (consumes ix · name) fun id =>
      oneSided ("interface '" ++ name ++ "' lists consumer '" ++ id ++ "', which does not use it")
        (document? ix id))
  ++ ofFeatures ix fun id f =>
    (failing f.provided (hasProvider ix · id) fun name =>
      oneSided ("feature '" ++ id ++ "' provides '" ++ name ++ "', but the interface does not list it")
        (some f.docPath))
    ++ failing f.used (hasUser ix · id) fun name =>
      oneSided ("feature '" ++ id ++ "' uses '" ++ name ++ "', but the interface does not list it")
        (some f.docPath)

def termReport : Report :=
  (ix.terms.toList.flatMap fun (key, t) =>
    if t.uses.length = t.useCount then []
    else [oneSided ("term '" ++ key ++ "' counts " ++ toString t.useCount ++ " uses but lists "
      ++ toString t.uses.length ++ " references") (some t.file)])
  ++ ofFeatures ix fun id f =>
    let missing (key : String) :=
      oneSided ("feature '" ++ id ++ "' names term '" ++ key ++ "', which is not in the index") (some f.docPath)
    failing f.termsUsed ix.terms.contains missing ++ failing f.termsDefined ix.terms.contains missing

/-! ## Interfaces -/

def locations (ids : List String) : List Location := (ids.filterMap (document? ix)).map Location.ofFile

def listed (s : KeySet) : String := join ", " s.toList

def providerReport : Report :=
  ofInterfaces ix fun name i =>
    (if i.providers.isEmpty && !i.users.isEmpty then
      [⟨.missingProvider, .error,
        "interface '" ++ name ++ "' is used by " ++ listed i.users ++ " but provided by no feature",
        locations ix i.users.toList⟩]
     else [])
    ++ ((i.providers.toList.filter (· ∈ i.users)).map fun id =>
      ⟨.selfReference, .warning, "feature '" ++ id ++ "' both provides and uses interface '" ++ name ++ "'",
        locations ix [id]⟩)
    ++ if !i.providers.isEmpty && i.users.toList.all (· ∈ i.providers) then
      [⟨.unconsumedInterface, .warning,
        "interface '" ++ name ++ "' is provided by " ++ listed i.providers ++ " but used by no other feature",
        locations ix i.providers.toList⟩]
     else []

def namespace? (name : String) : Option String :=
  match cutLast? '.' name with
  | some (space, _) => if space.isEmpty then none else some space
  | none => none

def members (space : String) : KeySet := ix.interfaces.keySet.filter fun name => namespace? name = some space

def coverageReport : Report :=
  (KeySet.ofList (ix.interfaces.keys.filterMap namespace?)).toList.flatMap fun space =>
    let all := (members ix space).toList
    if all.length < 2 then []
    else ofFeatures ix fun id f =>
      let missing := all.filter fun name => name ∉ f.provided ∧ name ∉ f.used
      if missing = [] ∨ missing = all then []
      else [⟨.partialNamespaceCoverage, .warning,
        "feature '" ++ id ++ "' documents " ++ toString (all.length - missing.length) ++ " of "
          ++ toString all.length ++ " interfaces in '" ++ space ++ "'; missing " ++ join ", " missing,
        [.ofFile f.docPath]⟩]

end Consistency

def Index.validate (ix : Index) : Report :=
  Consistency.codeReport ix ++ Consistency.importReport ix ++ Consistency.relationReport ix
    ++ Consistency.linkReport ix ++ Consistency.termReport ix ++ Consistency.providerReport ix
    ++ Consistency.coverageReport ix

end Interlink
