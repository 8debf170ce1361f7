import Interlink.Fault

/-!
# Failures

Why an operation gives no result, and how that is put into words.
-/

namespace Interlink

inductive Failure where
  | extraction (path message : String)
  | metadata (path message : String)
  | exportKind (text : String)
  | termKind (text : String)
  | termScope (text : String)
  | severity (text : String)
  | snapshot (path : String) (fault : Fault)
  | snapshotVersion (path : String) (found expected : Nat)
  | notFound (subject : String)
  | config (fault : Fault)
  | internal (message : String)
  | io
deriving DecidableEq, Repr

def Failure.message : Failure → String
  | .extraction path message => "Extraction failed for " ++ path ++ ": " ++ message
  | .metadata path message => "Invalid metadata in " ++ path ++ ": " ++ message
  | .exportKind text => "Invalid export kind: " ++ text
  | .termKind text => "Invalid term kind: " ++ text
  | .termScope text => "Invalid term scope: " ++ text
  | .severity text => "Invalid severity: " ++ text
  | .snapshot path fault => "Snapshot error: " ++ path ++ ": " ++ fault.message
  | .snapshotVersion path found expected =>
    "Snapshot error: " ++ path ++ " has version " ++ toString found ++ ", expected " ++ toString expected ++
      "; rebuild the index"
  | .notFound subject => "Not found: " ++ subject
  | .config fault => "Configuration error: " ++ fault.message
  | .internal message => "Internal error: " ++ message
  | .io => "IO error"

end Interlink
