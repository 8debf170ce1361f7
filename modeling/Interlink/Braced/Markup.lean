import Interlink.Braced.Expressions

/-!
# Elements

Elements with attributes and children, as the dialect with markup has them. The names at the two ends of
an element are not compared.
-/

namespace Interlink.Braced

open Syntax Syntax.Reader

namespace Grammar
variable (g : Grammar)

def elementWord : Reader String := do
  let w ← word
  let rest ← takeWhile fun c => c = '-' || isWordChar c
  return w ++ String.ofList rest

def elementName : Reader Tree := do
  let w ← elementWord
  (do symbol ":"; let _ ← elementWord; return .group []) <|> do
    let _ ← many (do symbol "."; let _ ← word)
    return .identifier w

def embedded : Reader Tree := do
  symbol "\x7b"
  let e ← optionally (do let _ ← option? (symbol "..."); g.expressions .enclosed)
  symbol "\x7d"
  return e

def attributeText : Reader Unit := do
  blanks
  let ending (quote : Char) : Reader Unit := do
    exactly quote
    let _ ← takeWhile (· ≠ quote)
    exactly quote
  ending '\x22' <|> ending '\x27'

def elementAttribute : Reader Tree :=
  g.embedded <|> do
    let _ ← elementWord
    let _ ← option? (do symbol ":"; elementWord)
    optionally do
      symbol "="
      (do attributeText; return .group []) <|> g.embedded <|> g.read .element

def characterReference : Reader Unit := do
  exactly '&'
  (do exactly '#'
      (do let _ ← char fun c => c = 'x' || c = 'X'
          let _ ← many1 (char isHex)) <|> (do let _ ← many1 (char Char.isDigit))) <|>
    (do let _ ← many1 (char Char.isAlpha))
  exactly ';'

/-- One child of an element: text, a reference, an element or an expression. -/
def child : Reader Tree :=
  (do characterReference; return .group []) <|>
  (do let _ ← many1 (char fun c => ! ['<', '>', '\x7b', '\x7d', '&'].contains c)
      return .group []) <|>
  (do require ((· == some '\x7b') <$> peek?); g.embedded) <|>
  (do require ((· == some '<') <$> peek?); g.read .element)

def closing : Reader Unit := do
  symbol "<"
  symbol "/"
  let _ ← option? elementName
  symbol ">"

def anyElement : Reader Tree := do
  symbol "<"
  let opening ← option? do
    let name ← elementName
    let types ← optionally g.typeArguments
    return Tree.group (name :: types :: (← many g.elementAttribute))
  (do guard opening.isSome; symbol "/"; exactly '>'; return .group opening.toList) <|> do
    symbol ">"
    let children ← many g.child
    closing
    return .group (opening.toList ++ children)

end Grammar

end Interlink.Braced
