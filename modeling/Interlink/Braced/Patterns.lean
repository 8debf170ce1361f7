import Interlink.Braced.Types

/-!
# Patterns

What a declaration or an assignment binds. A default value stays in the tree beside the pattern that it is for.
-/

namespace Interlink.Braced

open Syntax Syntax.Reader

def expressionKeywords : List String :=
  ["function", "class", "typeof", "void", "delete", "await", "yield", "import", "this", "super", "true", "false",
   "null", "undefined", "using", "new"]

namespace Grammar
variable (g : Grammar)

def withDefault (p : Reader Tree) : Reader Tree := do
  let target ← p
  match ← option? (do require ((· == "=") <$> operatorAhead); symbol "="; g.expression .enclosed) with
  | some value => return .defaulted target value
  | none => return target

def restPattern : Reader Tree := do
  symbol "..."
  return .remainder (← g.read .target)

def objectPatternPart : Reader Tree :=
  g.restPattern <|>
  (do let key ← propertyKey g
      symbol ":"
      return .property key (← g.withDefault (g.read .pattern))) <|>
  g.withDefault (do return .shorthand (← word))

def objectPattern : Reader Tree := do
  symbol "\x7b"
  let parts ← loose g.objectPatternPart
  symbol "\x7d"
  return .objectPattern parts

def arrayPattern : Reader Tree := do
  symbol "["
  let parts ← loose (g.withDefault (g.read .pattern))
  symbol "]"
  return .arrayPattern parts

def destructuring : Reader Tree := g.objectPattern <|> g.arrayPattern

def anyPattern : Reader Tree := g.restPattern <|> g.read .target

def binding : Reader Tree :=
  g.destructuring <|> (do return .identifier (← word))

end Grammar

end Interlink.Braced
