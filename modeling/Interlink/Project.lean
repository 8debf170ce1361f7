import Interlink.Analysis
import Interlink.ConfigFile
import Interlink.Files.Walk
import Interlink.Languages
import Interlink.Snapshot

/-!
# Projects

A directory with its settings. Its files are analyzed on the spot, and what the analysis finds is
kept in a snapshot.
-/

namespace Interlink

structure Surroundings where
  files : FileTree
  directory : String
  home? : Option String
  now : Timestamp

namespace Surroundings

def place (s : Surroundings) (path : String) : String := Path.place s.directory path

def isDirectory (s : Surroundings) (path : String) : Bool := s.files.isDirectory (s.place path)

def isThere (s : Surroundings) (path : String) : Bool := s.files.isThere (s.place path)

def readText (s : Surroundings) (path : String) : Except Failure (Option String) :=
  if Path.isForDirectory path && s.files.isFile (s.place path) then .error .io
  else s.files.readText (s.place path)

def writeText (s : Surroundings) (path text : String) : Except Failure FileTree :=
  if Path.isForDirectory path then .error .io else s.files.write (s.place path) text.toUTF8

end Surroundings

def Scan.ofDirectory (config : ScanConfig) (languages : LanguageSet) (s : Surroundings) (root : String) :
    Except Failure Scan :=
  let content (octets : ByteArray) : Except String String :=
    match String.fromUTF8? octets with
    | some text => .ok text
    | none => .error "not valid UTF-8"
  if s.isDirectory root then
    let found := (s.files.walk (s.place root)).filter fun f => !config.isExcluded f.1
    .ok (.classify config languages (found.map fun f => ⟨f.1, content f.2⟩))
  else .error (.notFound ("project root " ++ root))

structure Project where
  root : String
  config : Config

namespace Project

def configPath (dir : String) : String := Path.joined dir ".docgraph/config.toml"

/-- The settings of a project: its own, or else the user's, or else the defaults. -/
def configOf (s : Surroundings) (root : String) : Except Failure Config := do
  let paths := configPath root :: (s.home?.map configPath).toList
  match paths.find? s.isThere with
  | none => return {}
  | some path => Config.ofText ((← s.readText path).getD "")

def ofDirectory (s : Surroundings) (root : String) : Except Failure Project := do return ⟨root, ← configOf s root⟩

def snapshotPath (p : Project) : String := p.config.snapshotIn p.root

def scan (p : Project) (s : Surroundings) : Except Failure Scan :=
  Scan.ofDirectory p.config.scan .standard s p.root

def analyze (p : Project) (s : Surroundings) : Except Failure Analysis := do
  return .ofScan p.config .standard s.now (← p.scan s)

def build (p : Project) (s : Surroundings) : Except Failure (Analysis × FileTree) := do
  let a ← p.analyze s
  return (a, ← s.writeText p.snapshotPath (Snapshot.save a.index))

def index (p : Project) (s : Surroundings) : Except Failure Index := do
  match ← s.readText p.snapshotPath with
  | some text => Snapshot.load p.snapshotPath text
  | none => throw (.notFound ("snapshot " ++ p.snapshotPath ++ " (run \x60docgraph build\x60 first)"))

end Project

end Interlink
