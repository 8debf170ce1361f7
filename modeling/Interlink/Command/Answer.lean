import Interlink.Command.AnalysisText
import Interlink.Command.Data
import Interlink.Command.Request
import Interlink.Project

/-!
# Answers

What the program does for a command line: the text that it prints, the code that it ends with, and the files
that it leaves behind.
-/

namespace Interlink

open Text

structure Answer where
  code : Nat
  output : String
  error? : Option String
  files : FileTree

inductive Refusal where
  | failure (e : Failure)
  | noIndex (e : Failure)
  | noEntry (kind : EntryKind) (key : String)
  | noSource (file : String)

def Refusal.message : Refusal → String
  | failure e => e.message
  | noIndex e => e.message ++ "; run \x60docgraph build\x60 to create the reference index"
  | noEntry .feature id => "No feature with id '" ++ id ++ "'"
  | noEntry .code path => "No source file '" ++ path ++ "' in the reference index"
  | noEntry .interface name => "No interface named '" ++ name ++ "'"
  | noEntry .term name => "No term named '" ++ name ++ "'"
  | noSource file => "No source file '" ++ file ++ "' in the project"

def printed (lines : List String) : String := String.join (lines.map (· ++ "\n"))

def printedData (v : Json.Value) : String := printed [v.pretty]

def entryOf? (ix : Index) (kind : EntryKind) (key : String) : Option (List String × Json.Value) :=
  match kind with
  | .feature => (ix.feature? key).map fun f => (f.lines key, Snapshot.ofFeature f)
  | .code => (ix.code? key).map fun c => (c.lines key, Snapshot.ofCode c)
  | .interface => (ix.interface? key).map fun i => (i.lines key, Snapshot.ofInterface i)
  | .term => (ix.term? key).map fun (key, t) => (t.lines key, Snapshot.ofTerm t)

namespace Request

/-- What is printed, whether the answer is a good one, and the files after it. -/
abbrev Outcome := String × Bool × FileTree

def outcome (s : Surroundings) (p : Project) (r : Request) : Except Refusal Outcome := do
  let analysis : Except Refusal Analysis := (p.analyze s).mapError .failure
  let index : Except Refusal Index := (p.index s).mapError .noIndex
  let lines (ls : List String) : Except Refusal Outcome := .ok (printed ls, true, s.files)
  let data (v : Json.Value) : Except Refusal Outcome := .ok (printedData v, true, s.files)
  match r with
  | build =>
    let (a, files) ← (p.build s).mapError .failure
    return (printed (a.buildLines p.snapshotPath), true, files)
  | query kind key json =>
    match entryOf? (← index) kind key with
    | some (ls, v) => if json then data v else lines ls
    | none => throw (.noEntry kind key)
  | validate json =>
    let report := (← analysis).report
    return (if json then printedData report.data else printed report.lines, report.isOk, s.files)
  | orphans json =>
    let c := (← analysis).coverage
    if json then data (.ofList Orphan.data c.orphans) else lines c.lines
  | searchTerms text => lines ((← analysis).terms.registry.searchLines text)
  | listTerms => lines (← analysis).terms.lines
  | dependencies file =>
    let g := (← analysis).graph
    if g.contains file then lines (g.dependencyLines file) else throw (.noSource file)
  | dependents file =>
    let g := (← analysis).graph
    if g.contains file then lines (g.dependentLines file) else throw (.noSource file)
  | cycles => lines (← analysis).graph.cycleLines
  | stats json =>
    let ix ← index
    if json then data ix.stats.data else lines (ix.stats.lines ix.generatedAt)

def answer (s : Surroundings) (root : String) (r : Request) : Answer :=
  match (Project.ofDirectory s root).mapError Refusal.failure >>= fun p => r.outcome s p with
  | .ok (output, good, files) => ⟨if good then 0 else 1, output, none, files⟩
  | .error e => ⟨1, "", some e.message, s.files⟩

end Request

def version : String := "0.1.0"

def usage : String :=
  printed
    ["Keep documentation and source code cross-referenced and consistent", "",
      "Usage: docgraph [--root <ROOT>] <COMMAND>", "",
      "Commands:",
      "  build                                      write the reference index",
      "  query [--json] feature|code|interface|term <KEY>",
      "                                             look up an entry of the index",
      "  validate [--json]                          report all findings",
      "  orphans [--json]                           list exports that no document reaches",
      "  terms search <QUERY>                       search for terms",
      "  terms list                                 list all terms",
      "  graph deps|dependents <FILE>               list imports of a file, or its importers",
      "  graph cycles                               list import cycles",
      "  stats [--json]                             count the entries of the index"]

def answer (s : Surroundings) (args : List String) : Answer :=
  match Request.ofArguments args with
  | .request root? r => r.answer s (root?.getD s.directory)
  | .version name => ⟨0, printed [name ++ " " ++ version], none, s.files⟩
  | .help => ⟨0, usage, none, s.files⟩
  | .misuse => ⟨2, "", none, s.files⟩

end Interlink
