import Interlink.Failure
import Interlink.Text.Blank
import Interlink.Yaml.Value

/-!
# Front matter

The block of data at the top of a document that describes a feature. A document without such a block, or
with an empty one, describes none.
-/

namespace Interlink

open Text

structure FrontMatter where
  id? : Option String := none
  title? : Option String := none
  entryPoint? : Option String := none
  codeRefs : List String := []
  related : List String := []
  provides : List String := []
  uses : List String := []
  sharedTypes : List String := []
deriving DecidableEq, Repr

namespace FrontMatter

/-! ## The block -/

/-- Whether a line consists of a mark and blanks; its carriage return counts only where a line feed follows. -/
def isMark (marks : List String) (feed : Bool) (line : List Char) : Bool :=
  let line := if feed && line.getLast? = some '\r' then line.dropLast else line
  let mark := (line.reverse.dropWhile fun c => c = ' ' || c = '\t').reverse
  marks.contains (String.ofList mark)

def untilEnd? : List (List Char) → Option (List (List Char))
  | [] => none
  | l :: ls =>
    if isMark ["---", "..."] (!ls.isEmpty) l then some []
    else (untilEnd? ls).map (l :: ·)

def block? (s : List Char) : Option (List Char) :=
  match split (· = '\n') s with
  | opening :: first :: rest =>
    if isMark ["---"] true opening then
      (untilEnd? rest).map fun ls =>
        let text := ['\n'].intercalate (first :: ls)
        if text.getLast? = some '\r' then text.dropLast else text
    else none
  | _ => none

/-! ## The data -/

def texts (v : Yaml.Value) : Except Fault (List String) := v.items Yaml.Value.text

def interfaces : Record Yaml.Value (List String × List String) :=
  Prod.mk <$> .optional "provides" [] texts <*> .optional "uses" [] texts

def record : Record Yaml.Value FrontMatter :=
  (fun id? title? entryPoint? codeRefs related interfaces sharedTypes =>
    { id?, title?, entryPoint?, codeRefs, related, provides := interfaces.1, uses := interfaces.2, sharedTypes })
    <$> .optional "id" none (Yaml.Value.optional Yaml.Value.text)
    <*> .optional "title" none (Yaml.Value.optional Yaml.Value.text)
    <*> .optional "entry_point" none (Yaml.Value.optional Yaml.Value.text)
    <*> .optional "code_refs" [] texts
    <*> .optional "related" [] texts
    <*> .optional "interfaces" ([], []) (Yaml.Value.record "struct InterfaceDecl" interfaces)
    <*> .optional "shared_types" [] texts

def ofBlock (block : List Char) : Except String (Option FrontMatter) := do
  match ← (Yaml.Value.ofText (String.ofList block)).mapError Fault.message with
  | .null => return none
  | .map entries => some <$> ((Yaml.Value.map entries).record "struct FeatureMeta" record).mapError Fault.message
  | _ => throw "front matter is not a mapping"

def ofDocument (path text : String) : Except Failure (Option FrontMatter) :=
  match block? text.toList with
  | none => .ok none
  | some block => (ofBlock block).mapError (.metadata path)

/-! ## The feature -/

/-- The name of a file without its last ending, unless nothing would be left. -/
def stem (path : String) : String :=
  let name := match cutLast? '/' path with
    | some (_, name) => name
    | none => path
  match cutLast? '.' name with
  | some (stem, _) => if stem.isEmpty then name else stem
  | none => name

/-- The id of the feature; a document that gives none is known by its file. -/
def featureId (m : FrontMatter) (path : String) : String :=
  match m.id?.map trimmed with
  | some id => if id.isEmpty then stem path else id
  | none => stem path

end FrontMatter

end Interlink
