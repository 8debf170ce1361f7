import Interlink.Failure
import Interlink.Text.Blank
import Interlink.Text.LowerCase

/-!
# Definitions and references

A glossary defines terms; documents refer to them in double brackets.
-/

namespace Interlink

inductive TermKind where
  | concept
  | entity
  | process
  | property
  | relationship
  | abbreviation
deriving DecidableEq, Repr

namespace TermKind

def all : List TermKind := [concept, entity, process, property, relationship, abbreviation]

def name : TermKind → String
  | concept => "concept"
  | entity => "entity"
  | process => "process"
  | property => "attribute"
  | relationship => "relationship"
  | abbreviation => "abbreviation"

def ofText (s : String) : Except Failure TermKind :=
  match Text.lowered (Text.trimmed s) with
  | "concept" => .ok concept
  | "entity" => .ok entity
  | "process" => .ok process
  | "attribute" => .ok property
  | "relationship" => .ok relationship
  | "abbreviation" => .ok abbreviation
  | _ => .error (.termKind s)

end TermKind

/-- Who may refer to a term: every document, or only the one that defines it. -/
inductive TermScope where
  | global
  | document
deriving DecidableEq, Repr

namespace TermScope

def all : List TermScope := [global, document]

def name : TermScope → String
  | global => "global"
  | document => "document"

def ofText (s : String) : Except Failure TermScope :=
  match Text.lowered (Text.trimmed s) with
  | "global" => .ok global
  | "document" => .ok document
  | "local" => .ok document
  | _ => .error (.termScope s)

end TermScope

structure Definition where
  name : String
  id : String
  kind : TermKind
  scope : TermScope
  aliases : List String
  related : List String
  definition : String
  file : String
  line : Nat
deriving DecidableEq, Repr

/-- The only document that may refer to the term, if there is just one. -/
def Definition.onlyIn? (d : Definition) : Option String :=
  match d.scope with
  | .global => none
  | .document => some d.file

/-- The key of the term in an index, where a private term is told apart by its document. -/
def Definition.key (d : Definition) : String :=
  match d.onlyIn? with
  | none => d.name
  | some file => file ++ "#" ++ d.name

structure Reference where
  text : String
  canonical? : Option String
  file : String
  line : Nat
  context : String
deriving DecidableEq, Repr

end Interlink
