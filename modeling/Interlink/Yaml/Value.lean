import Interlink.Number.Numeral
import Interlink.Record
import Interlink.Text.Cut
import Interlink.Text.Quoted
import Interlink.Yaml.Node

/-!
# YAML values

What the nodes of a document mean, and how data of the expected shape is taken out of it.
-/

namespace Interlink.Yaml

inductive Value where
  | null
  | bool (b : Bool)
  | int (n : Int)
  | float (x : Binary64)
  | str (s : String)
  | list (items : List Value)
  | map (entries : List (Value × Value))
  | tagged (tag : String) (v : Value)
deriving Inhabited

namespace Value

/-! ## Equality -/

mutual

/-- Whether two values are the same as keys, where the order of entries does not count. -/
def same : Value → Value → Bool
  | null, null => true
  | bool a, bool b => a = b
  | int a, int b => a = b
  | float a, float b => a.same b
  | str a, str b => a = b
  | list as, list bs => sameItems as bs
  | map as, map bs => as.length = bs.length && sameEntries as bs
  | tagged s a, tagged t b => s = t && same a b
  | _, _ => false

def sameItems : List Value → List Value → Bool
  | [], [] => true
  | a :: as, b :: bs => same a b && sameItems as bs
  | _, _ => false

def sameEntries : List (Value × Value) → List (Value × Value) → Bool
  | [], _ => true
  | (k, v) :: es, others => (others.any fun o => same k o.1 && same v o.2) && sameEntries es others

end

/-! ## Words -/

def isNull (s : String) : Bool := ["null", "Null", "NULL", "~"].contains s

def bool? (s : String) : Option Bool :=
  [("true", true), ("True", true), ("TRUE", true), ("false", false), ("False", false), ("FALSE", false)].lookup s

/-- Whether more digits follow a zero, so that a text is no number. -/
def isPadded (s : List Char) : Bool :=
  let (_, s) := Numeral.sign s
  1 < s.length && s.head? = some '0' && s.all Char.isDigit

def magnitude? (s : List Char) : Option Nat :=
  match s with
  | '0' :: 'x' :: rest => Numeral.natural? 16 rest
  | '0' :: 'o' :: rest => Numeral.natural? 8 rest
  | '0' :: 'b' :: rest => Numeral.natural? 2 rest
  | _ => if isPadded s then none else Numeral.natural? 10 s

def int? (s : String) : Option Int := do
  let (sign, rest) := Numeral.sign s.toList
  let m ← magnitude? rest
  let n : Int := if sign = some '-' then -m else m
  if -Int.pow 2 127 ≤ n ∧ n < Int.pow 2 128 then some n else none

def ofInt (n : Int) : Except Fault Value :=
  if -Int.pow 2 63 ≤ n ∧ n < Int.pow 2 64 then .ok (int n)
  else
    let width := if n < 0 then "i128" else "u128"
    .error (.invalidType ("integer " ++ Fault.ticked (toString n) ++ " as " ++ width) "any YAML value")

def float? (s : String) : Option Binary64 :=
  let (sign, rest) := Numeral.sign s.toList
  let name := String.ofList rest
  if [".inf", ".Inf", ".INF"].contains name then some (.infinite (sign = some '-'))
  else if [".nan", ".NaN", ".NAN"].contains name && sign.isNone then some .nan
  else (Numeral.decimal? (sign = some '-') rest).filter (·.isFinite)

def ofWord (s : String) : Except Fault Value :=
  if s.isEmpty || isNull s then .ok null
  else match bool? s with
    | some b => .ok (bool b)
    | none =>
      match int? s with
      | some n => ofInt n
      | none =>
        match if isPadded s.toList then none else float? s with
        | some x => .ok (float x)
        | none => .ok (str s)

def coreTag (name : String) : String := "tag:yaml.org,2002:" ++ name

def ofScalar (tag? : Option String) (s : String) (plain : Bool) : Except Fault Value :=
  let wrong (expected : String) := Fault.invalidValue ("string " ++ Text.quoted s) expected
  match tag? with
  | none => if plain then ofWord s else .ok (str s)
  | some tag =>
    if tag = coreTag "bool" then
      match bool? s with
      | some b => .ok (bool b)
      | none => .error (wrong "a boolean")
    else if tag = coreTag "int" then
      match int? s with
      | some n => ofInt n
      | none => .error (wrong "an integer")
    else if tag = coreTag "float" then
      match float? s with
      | some x => .ok (float x)
      | none => .error (wrong "a float")
    else if tag = coreTag "null" then if isNull s then .ok null else .error (wrong "null")
    else if Text.startsWith tag "!" && plain then ofWord s
    else .ok (str s)

/-! ## Nodes -/

/-- The way to a part of a document; the document itself has none. -/
abbrev Path := Option String

def itemPath (path : Path) (i : Nat) : Path := some (path.getD "." ++ "[" ++ toString i ++ "]")

def entryPath (path : Path) (key : Node) : Path :=
  let name := match key with
    | .scalar _ s _ | .anchored _ (.scalar _ s _) => s
    | _ => "?"
  some ((path.map (· ++ ".")).getD "" ++ name)

def located (path : Path) (f : Fault) : Fault :=
  match path, f with
  | none, f => f
  | _, .malformed => .malformed
  | _, .inPart p f => .inPart p f
  | some p, f => .inPart p f

/-- Readings of nodes, which may follow so many aliases. -/
abbrev Reading := StateT Nat (Except Fault)

def ownTag? (tag? : Option String) : Option String := do
  match (← tag?).toList with
  | '!' :: c :: name => some (String.ofList (c :: name))
  | _ => none

def target (anchors : List (Nat × Node)) : Node → Reading Node
  | .anchored _ node => return node
  | .alias n => do
    match ← get with
    | 0 => throw .malformed
    | k + 1 =>
      set k
      match anchors.lookup n with
      | some node => return node
      | none => throw .malformed
  | node => return node

def readItems (read : Nat → Node → Reading Value) (i : Nat) : List Node → Reading (List Value)
  | [] => return []
  | n :: ns => return (← read i n) :: (← readItems read (i + 1) ns)

/-- The entries of a map, whose keys are different from each other. -/
def readEntries (readKey : Node → Reading Value) (readValue : Node → Node → Reading Value) (seen : List Value) :
    List (Node × Node) → Reading (List (Value × Value))
  | [] => return []
  | (k, v) :: es => do
    let key ← readKey k
    if seen.any (same key) then throw .malformed
    let value ← readValue k v
    return (key, value) :: (← readEntries readKey readValue (key :: seen) es)

/-- The value of a node whose lists and maps are nested at most `depth` deep. `told` says that its
tag has been read. -/
def ofNode (anchors : List (Nat × Node)) (depth : Nat) (path : Path) (told : Bool)
    (node : Node) : Reading Value := do
  match ← target anchors node with
  | .scalar tag? s plain =>
    match if told then none else ownTag? tag? with
    | some own => tagged own <$> scalar none s plain
    | none => scalar (if told then none else tag?) s plain
  | .list tag? items =>
    match depth with
    | 0 => throw .malformed
    | d + 1 =>
      let v ← list <$> readItems (fun i n => ofNode anchors d (itemPath path i) false n) 0 items
      return wrapped tag? v
  | .map tag? entries =>
    match depth with
    | 0 => throw .malformed
    | d + 1 =>
      let inOwn := told || (ownTag? tag?).isSome
      let v ← map <$> readEntries (ofNode anchors d path inOwn)
        (fun k v => ofNode anchors d (entryPath path k) false v)
        [] entries
      return wrapped tag? v
  | _ => throw .malformed
where
  scalar (tag? : Option String) (s : String) (plain : Bool) : Reading Value :=
    match ofScalar tag? s plain with
    | .ok v => return v
    | .error f => throw (located path f)
  wrapped (tag? : Option String) (v : Value) : Value :=
    match if told then none else ownTag? tag? with
    | some own => tagged own v
    | none => v

def greatestDepth : Nat := 128

def ofText (s : String) : Except Fault Value := do
  let d := Node.ofTokens (Token.ofText s.toList)
  let (v, _) ← (ofNode d.root.anchorsOf greatestDepth none false d.root).run (100 * d.root.size)
  if d.complete then return v else throw .malformed

/-! ## Data of the expected shape -/

def content : Value → Value
  | tagged _ v => content v
  | v => v

def found (v : Value) : String :=
  match v.content with
  | null => "unit value"
  | bool b => "boolean " ++ Fault.ticked (if b then "true" else "false")
  | int n => "integer " ++ Fault.ticked (toString n)
  | float x => "floating point " ++ Fault.ticked x.text
  | str s => "string " ++ Text.quoted s
  | list _ => "sequence"
  | map _ => "map"
  | tagged .. => "enum"

def mismatch {α : Type} (v : Value) (expected : String) : Except Fault α := .error (.invalidType v.found expected)

def text (v : Value) : Except Fault String :=
  match v.content with
  | str s => .ok s
  | _ => v.mismatch "a string"

def optional {α : Type} (read : Value → Except Fault α) : Value → Except Fault (Option α)
  | null => .ok none
  | v => some <$> read v

def items {α : Type} (read : Value → Except Fault α) (v : Value) : Except Fault (List α) :=
  match v.content with
  | null => .ok []
  | list items => items.mapM read
  | _ => v.mismatch "a sequence"

/-- A record, given by its entries; nothing stands for a record without any. -/
def record {α : Type} (shape : String) (r : Record Value α) (v : Value) : Except Fault α :=
  match v.content with
  | null => r.ofEntries (fun _ => .ok ()) []
  | map entries => r.ofEntries (fun _ => .ok ()) (entries.map fun (k, v) => (name k, v))
  | _ => v.mismatch shape
where
  name (k : Value) : Except Fault String :=
    match k.content with
    | str s => .ok s
    | _ => k.mismatch "field identifier"

end Value

end Interlink.Yaml
