import Interlink.Index
import Interlink.Text.Columns

/-!
# Entries as text

The lines that a query prints for an entry of the index.
-/

namespace Interlink

open Text

def exportLine (name : String) (kind : ExportKind) (line : Nat) : String :=
  padEnd 30 name ++ " " ++ padEnd 10 kind.name ++ " line " ++ toString line

def FeatureEntry.lines (id : String) (f : FeatureEntry) : List String :=
  ["Feature: " ++ id]
  ++ (f.title?.map ("  Title:        " ++ ·)).toList
  ++ ["  Document:     " ++ f.docPath]
  ++ (f.entryPoint?.map ("  Entry point:  " ++ ·)).toList
  ++ ["  Code:         " ++ listed f.codeUsed.toList,
    "  Reached code: " ++ toString f.codeUsedBy.size,
    "  Related:      " ++ listed f.related.toList,
    "  Provides:     " ++ listed f.provided.toList,
    "  Uses:         " ++ listed f.used.toList,
    "  Terms:        " ++ listed f.termsDefined.toList]

def CodeEntry.lines (path : String) (c : CodeEntry) : List String :=
  [path ++ " (" ++ c.language ++ ", " ++ c.role.name ++ ")",
    "  Documented in: " ++ listed c.documentedIn.toList,
    "  Imports:       " ++ listed c.imports.toList,
    "  Imported by:   " ++ listed c.importedBy.toList,
    "  External:      " ++ listed c.externalImports.toList]
  ++ if c.exports.isEmpty then ["  Exports:       -"]
    else "  Exports:" :: c.exports.map fun e =>
      "    " ++ exportLine e.name e.kind e.line ++ if e.isDefault then " (default)" else ""

def InterfaceEntry.lines (name : String) (i : InterfaceEntry) : List String :=
  ["Interface: " ++ name,
    "  Provided by:  " ++ listed i.providers.toList,
    "  Used by:      " ++ listed i.users.toList,
    "  Shared types: " ++ listed i.sharedTypes.toList]

def TermEntry.lines (key : String) (t : TermEntry) : List String :=
  [t.name ++ " [" ++ t.kind.name ++ ", " ++ t.scope.name ++ "]",
    "  Key:        " ++ key,
    "  Defined at: " ++ t.file ++ ":" ++ toString t.line]
  ++ (if t.aliases.isEmpty then [] else ["  Aliases:    " ++ join ", " t.aliases])
  ++ (if t.related.isEmpty then [] else ["  Related:    " ++ join ", " t.related])
  ++ ["  " ++ shortened 200 t.definition, "  Used " ++ toString t.useCount ++ " time(s)"]
  ++ t.uses.map fun u => "    " ++ u.file ++ ":" ++ toString u.line

def Index.Stats.lines (generatedAt : Timestamp) (s : Stats) : List String :=
  ["Reference index (generated " ++ generatedAt.clockText ++ "+00:00)",
    "  Features:              " ++ toString s.features,
    "  Code files:            " ++ toString s.codeFiles,
    "  Documented code files: " ++ toString s.documentedCodeFiles,
    "  Import edges:          " ++ toString s.importEdges,
    "  Exports:               " ++ toString s.exports,
    "  Interfaces:            " ++ toString s.interfaces,
    "  Terms:                 " ++ toString s.terms,
    "  Term references:       " ++ toString s.termUses,
    "  External dependencies: " ++ toString s.packages]

end Interlink
