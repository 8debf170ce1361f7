/-!
# Requests

What a command line asks for. A word is the next verb as long as the verbs so far need one, and the operand of
the last verb after that. Options may stand between the words; two dashes end them.
-/

namespace Interlink

inductive EntryKind where
  | feature
  | code
  | interface
  | term
deriving DecidableEq, Repr

inductive Request where
  | build
  | query (kind : EntryKind) (key : String) (json : Bool)
  | validate (json : Bool)
  | orphans (json : Bool)
  | searchTerms (query : String)
  | listTerms
  | dependencies (file : String)
  | dependents (file : String)
  | cycles
  | stats (json : Bool)
deriving DecidableEq, Repr

namespace Request

/-! ## Verbs -/

inductive Verb where
  /-- A verb that needs another one after it, and whether all of these take `--json`. -/
  | group (json : Bool) (verbs : List (String × Verb))
  | plain (json : Bool) (make : Bool → Request)
  | about (make : String → Bool → Request)

namespace Verb

def isGroup : Verb → Bool
  | group .. => true
  | _ => false

def next? : Verb → String → Option Verb
  | group _ verbs, word => verbs.lookup word
  | _, _ => none

def takesJson : Verb → Bool
  | group json _ => json
  | plain json _ => json
  | about _ => false

end Verb

def verbs : Verb :=
  .group false
    [("build", .plain false fun _ => build),
     ("query", .group true
      [("feature", .about (query .feature)),
       ("code", .about (query .code)),
       ("interface", .about (query .interface)),
       ("term", .about (query .term))]),
     ("validate", .plain true validate),
     ("orphans", .plain true orphans),
     ("terms", .group false
      [("search", .about fun text _ => searchTerms text),
       ("list", .plain false fun _ => listTerms)]),
     ("graph", .group false
      [("deps", .about fun file _ => dependencies file),
       ("dependents", .about fun file _ => dependents file),
       ("cycles", .plain false fun _ => cycles)]),
     ("stats", .plain true stats)]

/-! ## Options -/

inductive Argument where
  | word
  | root (value? : Option String)
  | json
  | help
  | version
  | unknown

def longOption (text : List Char) : Argument :=
  match text.span (· ≠ '=') with
  | (name, []) =>
    match String.ofList name with
    | "root" => .root none
    | "json" => .json
    | "help" => .help
    | "version" => .version
    | _ => .unknown
  | (name, _ :: value) => if name = "root".toList then .root (some (String.ofList value)) else .unknown

def Argument.ofText (text : String) : Argument :=
  match text.toList with
  | '-' :: '-' :: rest => longOption rest
  | ['-', 'r'] => .root none
  | '-' :: 'r' :: '=' :: value => .root (some (String.ofList value))
  | '-' :: 'r' :: value => .root (some (String.ofList value))
  | '-' :: 'h' :: _ => .help
  | '-' :: 'V' :: _ => .version
  | '-' :: _ :: _ => .unknown
  | _ => .word

def isValue (text : String) : Bool :=
  match Argument.ofText text with
  | .word => true
  | _ => false

/-! ## Command lines -/

inductive Reading where
  | request (root? : Option String) (r : Request)
  | version (name : String)
  | help
  | misuse

structure Progress where
  verb : Verb
  name : String
  root? : Option String := none
  takesJson : Bool := false
  json : Bool := false
  operand? : Option String := none
  rootGiven : Bool := false
  jsonGiven : Bool := false

namespace Progress

def enter (p : Progress) (word : String) (v : Verb) : Progress :=
  { p with
    verb := v
    name := p.name ++ "-" ++ word
    takesJson := p.takesJson || v.takesJson
    rootGiven := false
    jsonGiven := false }

/-- With a root. A verb takes one of them, which goes before those of earlier verbs. -/
def withRoot? (p : Progress) (root : String) : Option Progress :=
  if p.rootGiven || root.isEmpty then none else some { p with root? := some root, rootGiven := true }

def withJson? (p : Progress) : Option Progress :=
  if p.jsonGiven || !p.takesJson then none else some { p with json := true, jsonGiven := true }

def withOperand? (p : Progress) (word : String) : Option Progress :=
  match p.verb, p.operand? with
  | .about _, none => some { p with operand? := some word }
  | _, _ => none

def finish (p : Progress) : Reading :=
  match p.verb, p.operand? with
  | .plain _ make, _ => .request p.root? (make p.json)
  | .about make, some operand => .request p.root? (make operand p.json)
  | _, _ => .misuse

end Progress

def helpOn (v : Verb) : List String → Reading
  | [] => .help
  | word :: rest =>
    match v.next? word with
    | some v => helpOn v rest
    | none => if word = "help" && v.isGroup && rest.isEmpty then .help else .misuse

def readOperands (p : Progress) : List String → Reading
  | [] => p.finish
  | word :: rest =>
    match p.withOperand? word with
    | some p => readOperands p rest
    | none => .misuse

/-- The rest of a command line. The first argument that makes no sense decides, and so does one that asks
for help or the version. -/
def readFrom (p : Progress) : List String → Reading
  | [] => p.finish
  | arg :: rest =>
    match p.verb.next? arg with
    | some v => readFrom (p.enter arg v) rest
    | none =>
      if arg = "help" && p.verb.isGroup then helpOn p.verb rest
      else if arg = "--" then readOperands p rest
      else
        match Argument.ofText arg with
        | .help => .help
        | .version => .version p.name
        | .unknown => .misuse
        | .json =>
          match p.withJson? with
          | some p => readFrom p rest
          | none => .misuse
        | .root (some root) =>
          match p.withRoot? root with
          | some p => readFrom p rest
          | none => .misuse
        | .root none =>
          match rest with
          | root :: rest =>
            if isValue root then
              match p.withRoot? root with
              | some p => readFrom p rest
              | none => .misuse
            else .misuse
          | [] => .misuse
        | .word =>
          match p.withOperand? arg with
          | some p => readFrom p rest
          | none => .misuse

def ofArguments (args : List String) : Reading := readFrom { verb := verbs, name := "docgraph" } args

end Request

end Interlink
