import Interlink.Fact

/-!
# Syntax trees of Python

A tree keeps imports, definitions, assignments and the blocks that contain them. Of an expression it keeps
the strings, and which of them are its direct parts.
-/

namespace Interlink.Offside

inductive Expr where
  | string (raw : String)
  | compound (parts : List Expr)

instance : Inhabited Expr := ⟨.compound []⟩

inductive Target where
  | name (name : String)
  | sequence (targets : List Target)
  | starred (target : Target)
  | access

inductive Right where
  | absent
  | value (e : Expr)
  | assignment (line : Nat) (target : Target) (right : Right)

inductive Statement where
  | importing (line : Nat) (modules : List String)
  | importingFrom (line : Nat) (module : String) (names : List String)
  /-- `if`, with the text of its condition; every other branch is one of `alternatives`. -/
  | conditional (condition : String) (body alternatives : List Statement)
  | definition (line : Nat) (kind : ExportKind) (name : String) (body : List Statement)
  | decorated (definition : Statement)
  | assignment (line : Nat) (target : Target) (right : Right)
  | augmented (target : Target) (right : Right)
  | group (body : List Statement)

instance : Inhabited Statement := ⟨.group []⟩

end Interlink.Offside
