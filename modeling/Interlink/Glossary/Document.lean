import Interlink.Config
import Interlink.Glossary.Markup
import Interlink.Text.Slug

/-!
# Documents

A document defines the terms of its definition headings and refers to terms everywhere else. Front matter
and fenced code are no part of it: what counts are its visible lines. A definition owns the visible lines
up to the next heading.
-/

namespace Interlink.Glossary

open Text

structure Line where
  number : Nat
  text : List Char

def numbered (s : List Char) : List Line := (lines s).mapIdx fun i l => ⟨i + 1, l⟩

/-! ## Visible lines -/

def opensFrontMatter (line : List Char) : Bool := trimEnd line = ['-', '-', '-']

def closesFrontMatter (line : List Char) : Bool := opensFrontMatter line || trimEnd line = ['.', '.', '.']

/-- The place of the line that closes the front matter, if the first line opens one. -/
def frontMatterEnd? (ls : List Line) : Option Nat :=
  match ls with
  | first :: rest =>
    if opensFrontMatter first.text then (rest.findIdx? fun l => closesFrontMatter l.text).map (· + 1) else none
  | [] => none

def afterFrontMatter (ls : List Line) : List Line :=
  match frontMatterEnd? ls with
  | some i => ls.drop (i + 1)
  | none => ls

/-- The lines outside fences; `inside` is the fence that is open. -/
def outsideFences (inside : Option Fence) : List Line → List Line
  | [] => []
  | l :: ls =>
    match inside with
    | some f => outsideFences (if f.closedBy l.text then none else some f) ls
    | none =>
      match fenceMarker? l.text with
      | some (f, _) => outsideFences (some f) ls
      | none => l :: outsideFences none ls

def visible (s : List Char) : List Line := outsideFences none (afterFrontMatter (numbered s))

/-! ## Sections -/

structure Section where
  heading : Heading
  line : Line
  block : List Line

def sections : List Line → List Line × List Section
  | [] => ([], [])
  | l :: ls =>
    let (before, after) := sections ls
    match heading? l.text with
    | some h => ([], ⟨h, l, before⟩ :: after)
    | none => (l :: before, after)

def Section.name? (level : Nat) (s : Section) : Option (List Char) :=
  if s.heading.level = level then definedName? s.heading.text else none

/-! ## Definitions -/

/-- What the attributes of a definition say so far. -/
structure Draft where
  id? : Option String := none
  kind : TermKind := .concept
  scope : TermScope
  aliases : List String := []
  related : List String := []

/-- The names that a value lists: its references, or else its items. -/
def relatedNames (value : List Char) : List (List Char) :=
  match references value with
  | [] => listItems value
  | names => names

/-- The draft with one more attribute, or why its value cannot be read. -/
def Draft.apply (name : String) (d : Draft) (a : Attribute) : Except String Draft :=
  let value := String.ofList a.value
  match a.key with
  | "kind" =>
    match TermKind.ofText value with
    | .ok kind => .ok { d with kind }
    | .error _ => .error ("unknown term kind '" ++ value ++ "' for [[" ++ name ++ "]]")
  | "scope" =>
    match TermScope.ofText value with
    | .ok scope => .ok { d with scope }
    | .error _ => .error ("unknown term scope '" ++ value ++ "' for [[" ++ name ++ "]]")
  | "aliases" => .ok { d with aliases := d.aliases ++ (listItems a.value).map String.ofList }
  | "related" => .ok { d with related := d.related ++ (relatedNames a.value).map String.ofList }
  | "id" => if a.value = [] then .error ("empty id for [[" ++ name ++ "]]") else .ok { d with id? := some value }
  | _ => .ok d

def Draft.applyOrKeep (name : String) (d : Draft) (a : Attribute) : Draft :=
  match d.apply name a with
  | .ok d' => d'
  | .error _ => d

def attributes (block : List Line) : List (Nat × Attribute) :=
  block.filterMap fun l => (attribute? l.text).map (l.number, ·)

def bodyLines (block : List Line) : List Line := block.filter fun l => (attribute? l.text).isNone

def bodyText (body : List Line) : String :=
  String.ofList (List.intercalate [' '] (body.flatMap fun l => words isBlank l.text))

/-- The id of a term that is given none: its slug, or else its name in lower case. -/
def defaultId (name : String) : String := if (slug name).isEmpty then lowered name else slug name

def define (path : String) (scope : TermScope) (name : String) (line : Nat) (block : List Line) : Definition :=
  let d := ((attributes block).map (·.2)).foldl (Draft.applyOrKeep name) { scope }
  { name
    id := d.id?.getD (defaultId name)
    kind := d.kind
    scope := d.scope
    aliases := d.aliases
    related := d.related
    definition := bodyText (bodyLines block)
    file := path
    line }

def unreadable (path name : String) (block : List Line) : Report :=
  (attributes block).filterMap fun (line, a) =>
    match ({ scope := .global } : Draft).apply name a with
    | .error message => some ⟨.malformedMetadata, .warning, message, [.ofLine path line]⟩
    | .ok _ => none

def lineReferences (path : String) (l : Line) : List Reference :=
  (references (maskCode l.text)).map fun name =>
    { text := String.ofList name
      canonical? := none
      file := path
      line := l.number
      context := String.ofList (trim l.text) }

/-! ## The whole document -/

structure Document where
  path : String
  definitions : List Definition
  references : List Reference
  warnings : Report

def Section.definition? (config : TermsConfig) (path : String) (s : Section) : Option Definition :=
  (s.name? config.headingLevel).map fun name =>
    define path (config.scopeFor path) (String.ofList name) s.line.number s.block

/-- The lines of a section that may hold references: of a definition only its body. -/
def Section.textLines (level : Nat) (s : Section) : List Line :=
  match s.name? level with
  | some _ => bodyLines s.block
  | none => s.line :: s.block

def Section.warnings (level : Nat) (path : String) (s : Section) : Report :=
  match s.name? level with
  | some name => unreadable path (String.ofList name) s.block
  | none => []

def Document.ofLines (config : TermsConfig) (path : String) (ls : List Line) : Document :=
  let (before, parts) := sections ls
  { path
    definitions := parts.filterMap (Section.definition? config path)
    references := (before ++ parts.flatMap (Section.textLines config.headingLevel)).flatMap (lineReferences path)
    warnings := parts.flatMap (Section.warnings config.headingLevel path) }

def Document.parse (config : TermsConfig) (path text : String) : Document :=
  Document.ofLines config path (visible text.toList)

end Interlink.Glossary
