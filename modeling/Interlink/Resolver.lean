import Interlink.Config
import Interlink.KeySet
import Interlink.Language

/-!
# Resolution of imports

Which files an import means. A base path stands for the first of its candidates that is a file.
-/

namespace Interlink

open Text

structure Resolver where
  files : KeySet
  config : ResolveConfig := {}

inductive Resolution where
  /-- Files, the module itself before the modules below it. -/
  | internal (files : List String)
  | external
  | unresolved
deriving DecidableEq, Repr

namespace Resolver

/-- Endings of generated files, which an import may name in place of the file that they are made from. -/
def generatedEndings : List String := [".js", ".jsx", ".mjs", ".cjs"]

def candidates (c : ResolveConfig) (base : String) : List String :=
  let withEndings (stem : String) := c.extensions.map (stem ++ ·)
  (if base.isEmpty then [] else [base]) ++ withEndings base
    ++ ((generatedEndings.findSome? (withoutEnd? base)).toList.flatMap withEndings)
    ++ c.indexFiles.map (Path.below base)

def file? (r : Resolver) (base : String) : Option String := (candidates r.config base).find? r.files.contains

def targets (r : Resolver) (l : Language) (i : ImportFact) (base : String) : List String :=
  ((base :: l.members i base).filterMap r.file?).eraseDups

/-- What an import means that stands in the file `importer`. The first base that yields a file counts. -/
def resolve (r : Resolver) (l : Language) (importer : String) (i : ImportFact) : Resolution :=
  match ((l.bases i.specifier importer).map (r.targets l i)).find? (!·.isEmpty) with
  | some files => .internal files
  | none => if l.isRelative i.specifier then .unresolved else .external

theorem file?_mem {r : Resolver} {base file : String} (h : r.file? base = some file) : file ∈ r.files :=
  KeySet.contains_iff.mp (List.find?_some h)

theorem mem_of_mem_targets {r : Resolver} {l : Language} {i : ImportFact} {base file : String}
    (h : file ∈ r.targets l i base) : file ∈ r.files := by
  obtain ⟨b, _, hb⟩ := List.mem_filterMap.mp (List.mem_eraseDups.mp h)
  exact file?_mem hb

theorem mem_of_resolve {r : Resolver} {l : Language} {importer : String} {i : ImportFact}
    {files : List String} (h : r.resolve l importer i = .internal files) {file : String} (hf : file ∈ files) :
    file ∈ r.files := by
  simp only [resolve] at h
  split at h
  · rename_i found hfound
    obtain rfl := Resolution.internal.inj h
    obtain ⟨base, _, rfl⟩ := List.mem_map.mp (List.mem_of_find?_eq_some hfound)
    exact mem_of_mem_targets hf
  · split at h <;> cases h

theorem ne_nil_of_resolve {r : Resolver} {l : Language} {importer : String} {i : ImportFact}
    {files : List String} (h : r.resolve l importer i = .internal files) : files ≠ [] := by
  simp only [resolve] at h
  split at h
  · rename_i found hfound
    obtain rfl := Resolution.internal.inj h
    simpa using List.find?_some hfound
  · split at h <;> cases h

end Resolver

end Interlink
