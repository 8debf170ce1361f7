import Interlink.Index
import Interlink.Json.Reader
import Interlink.Json.Writer

/-!
# Snapshots

The text in which an index is kept, and the index of such a text.
-/

namespace Interlink.Snapshot

open Json (Value)

/-! ## Writing -/

def textMember? (name : String) (value : Option String) : Option (String × Value) :=
  value.map fun t => (name, .str t)

def textsMember? (name : String) (values : List String) : Option (String × Value) :=
  if values.isEmpty then none else some (name, .ofTexts values)

def ofFeature (f : FeatureEntry) : Value :=
  .ofMembers
    [some ("doc_path", .str f.docPath),
      textMember? "title" f.title?,
      textMember? "entry_point" f.entryPoint?,
      some ("code_used", .ofSet f.codeUsed),
      some ("code_used_by", .ofSet f.codeUsedBy),
      some ("related", .ofSet f.related),
      some ("interfaces_provided", .ofSet f.provided),
      some ("interfaces_used", .ofSet f.used),
      some ("shared_types", .ofSet f.sharedTypes),
      some ("terms_defined", .ofSet f.termsDefined),
      some ("terms_used", .ofSet f.termsUsed)]

def ofExport (e : ExportFact) : Value :=
  .ofMembers
    [some ("name", .str e.name),
      some ("kind", .str e.kind.name),
      if e.isDefault then some ("is_default", .bool true) else none,
      some ("line", .ofNat e.line)]

def ofCode (c : CodeEntry) : Value :=
  .ofMembers
    [some ("language", .str c.language),
      some ("role", .str c.role.name),
      some ("documented_in", .ofSet c.documentedIn),
      some ("imports", .ofSet c.imports),
      some ("imported_by", .ofSet c.importedBy),
      some ("exports", .ofList ofExport c.exports),
      some ("external_imports", .ofSet c.externalImports)]

def ofInterface (i : InterfaceEntry) : Value :=
  .ofMembers
    [some ("from", .ofSet i.providers),
      some ("to", .ofSet i.users),
      some ("shared_types", .ofSet i.sharedTypes)]

def ofUse (u : TermUse) : Value :=
  .ofMembers [some ("file", .str u.file), some ("line", .ofNat u.line), some ("text", .str u.text)]

def ofTerm (t : TermEntry) : Value :=
  .ofMembers
    [some ("name", .str t.name),
      some ("id", .str t.id),
      some ("kind", .str t.kind.name),
      some ("scope", .str t.scope.name),
      textsMember? "aliases" t.aliases,
      textsMember? "related" t.related,
      some ("definition", .str t.definition),
      some ("file", .str t.file),
      some ("line", .ofNat t.line),
      some ("references", .ofList ofUse t.uses),
      some ("usage_count", .ofNat t.useCount)]

def ofIndex (ix : Index) : Value :=
  .ofMembers
    [some ("version", .ofNat ix.version),
      some ("generated_at", .str ix.generatedAt.text),
      some ("features", .ofTable ofFeature ix.features),
      some ("code", .ofTable ofCode ix.code),
      some ("interfaces", .ofTable ofInterface ix.interfaces),
      some ("terms", .ofTable ofTerm ix.terms),
      some ("external_dependencies", .ofTable Value.ofSet ix.packages)]

def save (ix : Index) : String := (ofIndex ix).pretty ++ "\n"

/-! ## Reading -/

open Record (required optional)

def feature : Value → Except Fault FeatureEntry :=
  Value.record "struct FeatureEntry" <|
    FeatureEntry.mk <$> required "doc_path" Value.text
      <*> optional "title" none (Value.optional Value.text)
      <*> optional "entry_point" none (Value.optional Value.text)
      <*> required "code_used" Value.keySet
      <*> required "code_used_by" Value.keySet
      <*> required "related" Value.keySet
      <*> required "interfaces_provided" Value.keySet
      <*> required "interfaces_used" Value.keySet
      <*> required "shared_types" Value.keySet
      <*> required "terms_defined" Value.keySet
      <*> required "terms_used" Value.keySet

def exported : Value → Except Fault ExportFact :=
  Value.record "struct ExportEntry" <|
    ExportFact.mk <$> required "name" Value.text
      <*> required "kind" (Value.variant ExportKind.all ExportKind.name)
      <*> optional "is_default" false Value.boolean
      <*> required "line" Value.size

def code : Value → Except Fault CodeEntry :=
  Value.record "struct CodeEntry" <|
    CodeEntry.mk <$> required "language" Value.text
      <*> required "role" (Value.variant FileRole.all FileRole.name)
      <*> required "documented_in" Value.keySet
      <*> required "imports" Value.keySet
      <*> required "imported_by" Value.keySet
      <*> required "exports" (Value.list exported)
      <*> required "external_imports" Value.keySet

def interface : Value → Except Fault InterfaceEntry :=
  Value.record "struct InterfaceEntry" <|
    InterfaceEntry.mk <$> required "from" Value.keySet
      <*> required "to" Value.keySet
      <*> required "shared_types" Value.keySet

def use : Value → Except Fault TermUse :=
  Value.record "struct TermRefEntry" <|
    TermUse.mk <$> required "file" Value.text
      <*> required "line" Value.size
      <*> required "text" Value.text

def term : Value → Except Fault TermEntry :=
  Value.record "struct TermEntry" <|
    TermEntry.mk <$> required "name" Value.text
      <*> required "id" Value.text
      <*> required "kind" (Value.variant TermKind.all TermKind.name)
      <*> required "scope" (Value.variant TermScope.all TermScope.name)
      <*> optional "aliases" [] (Value.list Value.text)
      <*> optional "related" [] (Value.list Value.text)
      <*> required "definition" Value.text
      <*> required "file" Value.text
      <*> required "line" Value.size
      <*> required "references" (Value.list use)
      <*> required "usage_count" Value.size

def timestamp : Value → Except Fault Timestamp
  | .str s =>
    match Timestamp.ofText? s with
    | some t => .ok t
    | none => .error .malformed
  | v => v.mismatch "an RFC 3339 formatted date and time string"

def index : Value → Except Fault Index :=
  Value.record "struct ReferenceIndex" <|
    Index.mk <$> required "version" (Value.natural 32 "u32")
      <*> required "generated_at" timestamp
      <*> required "features" (Value.table feature)
      <*> required "code" (Value.table code)
      <*> required "interfaces" (Value.table interface)
      <*> required "terms" (Value.table term)
      <*> optional "external_dependencies" .empty (Value.table Value.keySet)

def load (path text : String) : Except Failure Index :=
  match Json.decode index text with
  | .error fault => .error (.snapshot path fault)
  | .ok ix =>
    if ix.version = Index.currentVersion then .ok ix
    else .error (.snapshotVersion path ix.version Index.currentVersion)

end Interlink.Snapshot
