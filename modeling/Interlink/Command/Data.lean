import Interlink.Coverage
import Interlink.Finding
import Interlink.Index
import Interlink.Json.Writer

/-!
# Results as data

The JSON values of what is not kept in snapshots: findings, orphans and statistics.
-/

namespace Interlink

open Json (Value)

def Location.data (l : Location) : Value :=
  .ofMembers [some ("file", .str l.file), l.line?.map fun n => ("line", .ofNat n)]

def Finding.data (f : Finding) : Value :=
  .ofMembers
    [some ("kind", .str f.kind.key),
      some ("severity", .str f.severity.name),
      some ("message", .str f.message),
      if f.locations.isEmpty then none else some ("locations", .ofList Location.data f.locations)]

def Report.data (r : Report) : Value := .ofMembers [some ("findings", .ofList Finding.data r)]

def Orphan.data (o : Orphan) : Value :=
  .ofMembers
    [some ("file", .str o.file),
      some ("name", .str o.name),
      some ("kind", .str o.kind.name),
      some ("line", .ofNat o.line)]

def Index.Stats.data (s : Stats) : Value :=
  .ofMembers
    [some ("features", .ofNat s.features),
      some ("code_files", .ofNat s.codeFiles),
      some ("documented_code_files", .ofNat s.documentedCodeFiles),
      some ("import_edges", .ofNat s.importEdges),
      some ("exports", .ofNat s.exports),
      some ("interfaces", .ofNat s.interfaces),
      some ("terms", .ofNat s.terms),
      some ("term_references", .ofNat s.termUses),
      some ("external_dependencies", .ofNat s.packages)]

end Interlink
