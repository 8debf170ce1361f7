import Interlink.Table
import Interlink.Yaml.Layout

/-!
# Nodes

The tree of a document. Where the tokens break off or do not fit together, a broken node stands, so that
what comes before it keeps its meaning.
-/

namespace Interlink.Yaml

inductive Node where
  | scalar (tag? : Option String) (text : String) (plain : Bool)
  | list (tag? : Option String) (items : List Node)
  | map (tag? : Option String) (entries : List (Node × Node))
  | anchored (number : Nat) (node : Node)
  | alias (number : Nat)
  | broken
deriving Inhabited

namespace Node

/-- What is left of the tokens, and the number of each anchor so far. -/
structure Rest where
  tokens : List Token
  anchors : Table Nat

/-- Handles of tags with what they are short for. -/
abbrev Handles := List (String × String)

def tagOf? (handles : Handles) (handle rest : String) : Option String :=
  if handle.isEmpty then some rest else (handles.lookup handle).map (· ++ rest)

structure Properties where
  anchor? : Option String := none
  tag? : Option (String × String) := none

def properties : List Token → Properties × List Token
  | .anchor a :: .tag h t :: rest => (⟨some a, some (h, t)⟩, rest)
  | .tag h t :: .anchor a :: rest => (⟨some a, some (h, t)⟩, rest)
  | .anchor a :: rest => (⟨some a, none⟩, rest)
  | .tag h t :: rest => (⟨none, some (h, t)⟩, rest)
  | ts => (⟨none, none⟩, ts)

def absent : Node := .scalar none "" true

structure Allowed where
  block : Bool
  /-- Whether items may stand there without a block of their own. -/
  items : Bool := false

def absentAt (ends : List Token) (r : Rest) : Bool := r.tokens.head?.any ends.contains

mutual

def read (handles : Handles) (allowed : Allowed) : Nat → Rest → Node × Option Rest
  | 0, _ => (.broken, none)
  | fuel + 1, r =>
    match r.tokens with
    | .alias name :: rest =>
      match r.anchors.find? name with
      | some n => (.alias n, some { r with tokens := rest })
      | none => (.broken, none)
    | ts =>
      let (said, ts) := properties ts
      match said.tag?.mapM fun (h, t) => tagOf? handles h t with
      | none => (.broken, none)
      | some tag? =>
        match said.anchor? with
        | some a =>
          let number := r.anchors.size
          let (node, rest) := content handles allowed true tag? fuel ⟨ts, r.anchors.insert a number⟩
          (.anchored number node, rest)
        | none => content handles allowed tag?.isSome tag? fuel ⟨ts, r.anchors⟩

/-- The content of a node, which may be missing where something is `said` of it. -/
def content (handles : Handles) (allowed : Allowed) (said : Bool) (tag? : Option String) :
    Nat → Rest → Node × Option Rest
  | 0, _ => (.broken, none)
  | fuel + 1, r =>
    match r.tokens with
    | [] => (.broken, none)
    | .scalar text plain :: rest =>
      let tag? := tag?.filter (· ≠ "!")
      (.scalar tag? text plain, some { r with tokens := rest })
    | .openList :: rest =>
      let (items, r) := flowItems handles true fuel { r with tokens := rest }
      (.list tag? items, r)
    | .openMap :: rest =>
      let (entries, r) := flowEntries handles true fuel { r with tokens := rest }
      (.map tag? entries, r)
    | t :: rest =>
      if t = .item && allowed.items then
        let (items, r) := looseItems handles fuel r
        (.list tag? items, r)
      else if t = .blockSequence && allowed.block then
        let (items, r) := blockItems handles fuel { r with tokens := rest }
        (.list tag? items, r)
      else if t = .blockMapping && allowed.block then
        let (entries, r) := blockEntries handles fuel { r with tokens := rest }
        (.map tag? entries, r)
      else if said then (.scalar tag? "" true, some r)
      else (.broken, none)

def readUnless (handles : Handles) (ends : List Token) (allowed : Allowed) : Nat → Rest → Node × Option Rest
  | 0, _ => (.broken, none)
  | fuel + 1, r => if absentAt ends r then (absent, some r) else read handles allowed fuel r

def blockItems (handles : Handles) : Nat → Rest → List Node × Option Rest
  | 0, _ => ([.broken], none)
  | fuel + 1, r =>
    match r.tokens with
    | .item :: rest =>
      let (node, r) := readUnless handles [.item, .blockEnd] ⟨true, false⟩ fuel { r with tokens := rest }
      match r with
      | some r =>
        let (nodes, r) := blockItems handles fuel r
        (node :: nodes, r)
      | none => ([node], none)
    | .blockEnd :: rest => ([], some { r with tokens := rest })
    | _ => ([.broken], none)

def looseItems (handles : Handles) : Nat → Rest → List Node × Option Rest
  | 0, _ => ([.broken], none)
  | fuel + 1, r =>
    match r.tokens with
    | .item :: rest =>
      let (node, r) :=
        readUnless handles [.item, .key, .value, .blockEnd] ⟨true, false⟩ fuel { r with tokens := rest }
      match r with
      | some r =>
        let (nodes, r) := looseItems handles fuel r
        (node :: nodes, r)
      | none => ([node], none)
    | [] => ([.broken], none)
    | _ => ([], some r)

def blockEntries (handles : Handles) : Nat → Rest → List (Node × Node) × Option Rest
  | 0, _ => ([(.broken, .broken)], none)
  | fuel + 1, r =>
    match r.tokens with
    | .key :: rest =>
      let (key, r) := readUnless handles [.key, .value, .blockEnd] ⟨true, true⟩ fuel { r with tokens := rest }
      match r with
      | none => ([(key, .broken)], none)
      | some r =>
        let (value, r) := match r.tokens with
          | .value :: rest =>
            readUnless handles [.key, .value, .blockEnd] ⟨true, true⟩ fuel { r with tokens := rest }
          | [] => (.broken, none)
          | _ => (absent, some r)
        match r with
        | none => ([(key, value)], none)
        | some r =>
          let (entries, r) := blockEntries handles fuel r
          ((key, value) :: entries, r)
    | .blockEnd :: rest => ([], some { r with tokens := rest })
    | _ => ([(.broken, .broken)], none)

def flowItems (handles : Handles) (first : Bool) : Nat → Rest → List Node × Option Rest
  | 0, _ => ([.broken], none)
  | fuel + 1, r =>
    match r.tokens, first with
    | .closeList :: rest, _ => ([], some { r with tokens := rest })
    | .comma :: .closeList :: rest, false => ([], some { r with tokens := rest })
    | .comma :: rest, false => flowItem handles fuel { r with tokens := rest }
    | _ :: _, true => flowItem handles fuel r
    | _, _ => ([.broken], none)

def flowItem (handles : Handles) : Nat → Rest → List Node × Option Rest
  | 0, _ => ([.broken], none)
  | fuel + 1, r =>
    let (node, r) := match r.tokens with
      | .key :: rest =>
        let (entry, r) := flowPair handles fuel { r with tokens := rest }
        (.map none [entry], r)
      | _ => read handles ⟨false, false⟩ fuel r
    match r with
    | none => ([node], none)
    | some r =>
      let (nodes, r) := flowItems handles false fuel r
      (node :: nodes, r)

/-- An entry of a list in brackets, after the mark of its key. The token after a missing key is passed over. -/
def flowPair (handles : Handles) : Nat → Rest → (Node × Node) × Option Rest
  | 0, _ => ((.broken, .broken), none)
  | fuel + 1, r =>
    let (key, r) :=
      if absentAt [.value, .comma, .closeList] r then (absent, some { r with tokens := r.tokens.drop 1 })
      else read handles ⟨false, false⟩ fuel r
    match r with
    | none => ((key, .broken), none)
    | some r =>
      let (value, r) := match r.tokens with
        | .value :: rest => readUnless handles [.comma, .closeList] ⟨false, false⟩ fuel { r with tokens := rest }
        | [] => (.broken, none)
        | _ => (absent, some r)
      ((key, value), r)

def flowEntries (handles : Handles) (first : Bool) : Nat → Rest → List (Node × Node) × Option Rest
  | 0, _ => ([(.broken, .broken)], none)
  | fuel + 1, r =>
    match r.tokens, first with
    | .closeMap :: rest, _ => ([], some { r with tokens := rest })
    | .comma :: .closeMap :: rest, false => ([], some { r with tokens := rest })
    | .comma :: rest, false => flowEntry handles fuel { r with tokens := rest }
    | _ :: _, true => flowEntry handles fuel r
    | _, _ => ([(.broken, .broken)], none)

def flowEntry (handles : Handles) : Nat → Rest → List (Node × Node) × Option Rest
  | 0, _ => ([(.broken, .broken)], none)
  | fuel + 1, r =>
    let ends := [.value, .comma, .closeMap]
    let (key, marked, r) := match r.tokens with
      | .key :: rest =>
        let (key, r) := readUnless handles ends ⟨false, false⟩ fuel { r with tokens := rest }
        (key, true, r)
      | _ =>
        let (key, r) := read handles ⟨false, false⟩ fuel r
        (key, false, r)
    match r with
    | none => ([(key, .broken)], none)
    | some r =>
      let (value, r) := match r.tokens, marked with
        | .value :: rest, true =>
          readUnless handles [.comma, .closeMap] ⟨false, false⟩ fuel { r with tokens := rest }
        | [], _ => (.broken, none)
        | _, _ => (absent, some r)
      match r with
      | none => ([(key, value)], none)
      | some r =>
        let (entries, r) := flowEntries handles false fuel r
        ((key, value) :: entries, r)

end

/-! ## Documents -/

def standardHandles : Handles := [("!", "!"), ("!!", "tag:yaml.org,2002:")]

/-- The handles that the directives before a document give, and the tokens after those. -/
def directives? (versioned : Bool) (handles : Handles) : List Token → Option (Handles × List Token)
  | .version major minor :: rest =>
    if versioned || major ≠ 1 || (minor ≠ 1 && minor ≠ 2) then none else directives? true handles rest
  | .handle name start :: rest =>
    if (handles.lookup name).isSome then none else directives? versioned ((name, start) :: handles) rest
  | ts => some (handles ++ standardHandles, ts)

/-- The only document, which `done` follows unless what comes after it is broken. -/
structure Document where
  root : Node
  complete : Bool

def endsDocument : List Token → Bool
  | .documentEnd :: rest => endsDocument rest
  | ts => ts = [.done]

def document (handles : Handles) (ts : List Token) : Document :=
  let (root, rest) := read handles ⟨true, false⟩ (8 * ts.length + 8) ⟨ts, .empty⟩
  ⟨root, rest.any fun r => endsDocument r.tokens⟩

/-- The document that tokens make; where there is none, an absent node. -/
def ofTokens (ts : List Token) : Document :=
  match ts with
  | [.done] => ⟨absent, true⟩
  | t :: _ =>
    match t with
    | .version .. | .handle .. | .documentStart =>
      match directives? false [] ts with
      | some (handles, .documentStart :: ts) =>
        if absentAt [.documentStart, .documentEnd, .done] ⟨ts, .empty⟩ then ⟨absent, endsDocument ts⟩
        else document handles ts
      | _ => ⟨.broken, false⟩
    | _ => document standardHandles ts
  | [] => ⟨.broken, false⟩

/-! ## Anchors -/

mutual

/-- The anchored nodes with their numbers, from the end of the document on. -/
def anchorsOf : Node → List (Nat × Node)
  | .anchored n node => anchorsOf node ++ [(n, node)]
  | .list _ items => anchorsOfItems items
  | .map _ entries => anchorsOfEntries entries
  | _ => []

def anchorsOfItems : List Node → List (Nat × Node)
  | [] => []
  | n :: ns => anchorsOfItems ns ++ anchorsOf n

def anchorsOfEntries : List (Node × Node) → List (Nat × Node)
  | [] => []
  | (k, v) :: es => anchorsOfEntries es ++ anchorsOf v ++ anchorsOf k

end

mutual

/-- The number of marks in a node; a list or a map has one at each end. -/
def size : Node → Nat
  | .anchored _ node => size node
  | .list _ items => 2 + sizeOfItems items
  | .map _ entries => 2 + sizeOfEntries entries
  | _ => 1

def sizeOfItems : List Node → Nat
  | [] => 0
  | n :: ns => size n + sizeOfItems ns

def sizeOfEntries : List (Node × Node) → Nat
  | [] => 0
  | (k, v) :: es => size k + size v + sizeOfEntries es

end

end Node

end Interlink.Yaml
