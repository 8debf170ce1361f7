import Interlink.Fact
import Interlink.Glossary.Definition
import Interlink.SourceFile
import Interlink.Table
import Interlink.Text.Cut
import Interlink.Timestamp

/-!
# The reference index

One map over features, code files, interfaces and terms. Every relation stands in both of its ends, so
that each can be asked for from either side.
-/

namespace Interlink

open Text

/-! ## Entries -/

structure FeatureEntry where
  docPath : String
  title? : Option String
  entryPoint? : Option String
  codeUsed : KeySet
  codeUsedBy : KeySet
  related : KeySet
  provided : KeySet
  used : KeySet
  sharedTypes : KeySet
  termsDefined : KeySet
  termsUsed : KeySet
deriving DecidableEq

structure CodeEntry where
  language : String
  role : FileRole
  documentedIn : KeySet
  imports : KeySet
  importedBy : KeySet
  exports : List ExportFact
  externalImports : KeySet
deriving DecidableEq

structure InterfaceEntry where
  providers : KeySet
  users : KeySet
  /-- What its providers share. -/
  sharedTypes : KeySet
deriving DecidableEq

def InterfaceEntry.empty : InterfaceEntry := ⟨.empty, .empty, .empty⟩

structure TermUse where
  file : String
  line : Nat
  text : String
deriving DecidableEq

structure TermEntry where
  name : String
  id : String
  kind : TermKind
  scope : TermScope
  aliases : List String
  related : List String
  definition : String
  file : String
  line : Nat
  uses : List TermUse
  useCount : Nat
deriving DecidableEq

structure Index where
  version : Nat
  generatedAt : Timestamp
  features : Table FeatureEntry
  code : Table CodeEntry
  interfaces : Table InterfaceEntry
  terms : Table TermEntry
  packages : Table KeySet
deriving DecidableEq

namespace Index

def currentVersion : Nat := 1

/-! ## Queries -/

def feature? (ix : Index) (id : String) : Option FeatureEntry := ix.features.find? id

def plainPath : List Char → List Char
  | '.' :: '/' :: rest => plainPath rest
  | s => s

def code? (ix : Index) (path : String) : Option CodeEntry := ix.code.find? (String.ofList (plainPath path.toList))

def interface? (ix : Index) (name : String) : Option InterfaceEntry := ix.interfaces.find? name

def answersTo (needle : String) (e : TermEntry) : Bool :=
  lowered e.name = needle || e.aliases.any fun a => lowered a = needle

/-- The term of a key, or else of a name or an alias; a global one goes first, then one of a lesser key. -/
def term? (ix : Index) (name : String) : Option (String × TermEntry) :=
  match ix.terms.find? name with
  | some e => some (name, e)
  | none =>
    let hits := ix.terms.toList.filter fun e => answersTo (lowered (trimmed name)) e.2
    hits.find? (·.2.scope = .global) <|> hits.head?

structure Stats where
  features : Nat
  codeFiles : Nat
  documentedCodeFiles : Nat
  importEdges : Nat
  exports : Nat
  interfaces : Nat
  terms : Nat
  termUses : Nat
  packages : Nat
deriving DecidableEq, Repr

def stats (ix : Index) : Stats where
  features := ix.features.size
  codeFiles := ix.code.size
  documentedCodeFiles := ix.code.values.countP fun c => !c.documentedIn.isEmpty
  importEdges := ix.code.total (·.imports.size)
  exports := ix.code.total (·.exports.length)
  interfaces := ix.interfaces.size
  terms := ix.terms.size
  termUses := ix.terms.total (·.useCount)
  packages := ix.packages.size

end Index

end Interlink
