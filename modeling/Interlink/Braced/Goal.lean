import Interlink.Braced.Token
import Interlink.Braced.Tree

/-!
# What the grammar refers to

The constructs that contain one another are read through a `Grammar`, so that each of them is defined on
its own and the recursion is tied once.
-/

namespace Interlink.Braced

open Syntax Syntax.Reader

inductive Goal where
  /-- `annotated` allows a parenthesised list before a colon to open an arrow with a return type. -/
  | expression (boundary : Boundary) (annotated : Bool)
  | target
  | pattern
  | type (boundary : Boundary)
  | statement
  | block
  | element

/-- `markup` tells the dialect with elements from the one with type assertions. -/
structure Grammar where
  markup : Bool
  read : Goal → Reader Tree

namespace Grammar
variable (g : Grammar)

def expression (b : Boundary) : Reader Tree := g.read (.expression b true)

def type (b : Boundary) : Reader Tree := g.read (.type b)

def expressions (b : Boundary) : Reader Tree :=
  return .group (← sepBy1 (g.expression b) (symbol ","))

end Grammar

def loose (p : Reader Tree) : Reader (List Tree) := do
  let first ← option? p
  let rest ← many (do symbol ","; option? p)
  return (first :: rest).filterMap id

/-- One or more items with commas between them, and perhaps one after the last. -/
def listed (p : Reader Tree) : Reader (List Tree) := do
  let items ← sepBy1 p (symbol ",")
  let _ ← option? (symbol ",")
  return items

def optionally (p : Reader Tree) : Reader Tree := p <|> pure (.group [])

end Interlink.Braced
