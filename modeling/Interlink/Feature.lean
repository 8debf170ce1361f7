import Interlink.FrontMatter
import Interlink.Scan
import Interlink.Table

/-!
# Features

A feature is a document with front matter, known by an id. Of two documents with one id the earlier
one is the feature.
-/

namespace Interlink

structure Feature where
  path : String
  front : FrontMatter
deriving DecidableEq, Repr

inductive DocRole where
  | plain
  | unreadable (failure : Failure)
  | repeated (id first : String)
  | feature (id : String) (f : Feature)
deriving DecidableEq, Repr

namespace DocRole

def of (taken : Table String) (d : DocFile) : DocRole :=
  match FrontMatter.ofDocument d.path d.content with
  | .error e => .unreadable e
  | .ok none => .plain
  | .ok (some front) =>
    let id := front.featureId d.path
    match taken.find? id with
    | some first => .repeated id first
    | none => .feature id ⟨d.path, front⟩

def after (taken : Table String) : List DocFile → List (DocFile × DocRole)
  | [] => []
  | d :: ds =>
    let role := of taken d
    (d, role) :: after (match role with
      | .feature id f => taken.insert id f.path
      | _ => taken) ds

def ofDocs (docs : List DocFile) : List (DocFile × DocRole) := after .empty docs

end DocRole

def Feature.table (roles : List (DocFile × DocRole)) : Table Feature :=
  .ofList (roles.filterMap fun (_, role) =>
    match role with
    | .feature id f => some (id, f)
    | _ => none)

def Feature.codeRefs (f : Feature) : List String := f.front.entryPoint?.toList ++ f.front.codeRefs

end Interlink
