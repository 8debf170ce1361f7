import Interlink.Finding
import Interlink.Glossary.Definition
import Interlink.Table

/-!
# Name tables

Who is called what within one scope: its terms by the keys of their names and of their aliases. Names and
aliases are looked up by key, so neither case nor the blanks around a name matter. A name goes before an
alias, and an earlier alias before a later one.
-/

namespace Interlink.Glossary

open Text

def key (name : String) : String := lowered (trimmed name)

/-- A registered definition with its place in the registry. -/
structure Term where
  number : Nat
  definition : Definition
deriving DecidableEq, Repr

namespace Term

def name (t : Term) : String := t.definition.name

def location (t : Term) : Location := .ofLine t.definition.file t.definition.line

end Term

/-- A name that a term wants and another term has. -/
structure Contest where
  name : String
  holder : Term
deriving DecidableEq, Repr

structure NameTable where
  names : Table Term := .empty
  aliases : Table Term := .empty
deriving DecidableEq

namespace NameTable

def find? (table : NameTable) (k : String) : Option Term := table.names.find? k <|> table.aliases.find? k

/-- The table with a new term under its name. A term that has the name as an alias loses it. -/
def claimName (t : Term) (table : NameTable) : NameTable × List Contest :=
  ({ names := table.names.insert (key t.name) t, aliases := table.aliases.erase (key t.name) },
    ((table.aliases.find? (key t.name)).map (Contest.mk t.name)).toList)

/-- The table with one more alias of a new term, unless another term has it. -/
def claimAlias (t : Term) (s : NameTable × List Contest) (name : String) : NameTable × List Contest :=
  if key name = key t.name then s
  else
    match s.1.find? (key name) with
    | some other => if other.number = t.number then s else (s.1, s.2 ++ [⟨name, other⟩])
    | none => ({ s.1 with aliases := s.1.aliases.insert (key name) t }, s.2)

/-- The table with a new term under its name and its aliases, and the names that other terms have already. -/
def register (t : Term) (table : NameTable) : NameTable × List Contest :=
  t.definition.aliases.foldl (claimAlias t) (claimName t table)

end NameTable

end Interlink.Glossary
