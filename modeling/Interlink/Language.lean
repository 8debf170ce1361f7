import Interlink.Fact
import Interlink.Failure
import Interlink.Path

/-!
# Languages

What has to be known of a language to read the imports and exports of its files and to find the files
that an import means.
-/

namespace Interlink

structure Language where
  name : String
  extensions : List String
  handles : String → Bool := fun path => (Path.extension? path).any extensions.contains
  extract : (path text : String) → Except Failure FileFacts
  /-- Paths that a specifier may mean in the file `importer`, the likeliest first. -/
  bases : (specifier importer : String) → List String :=
    fun specifier importer => (Path.relativeBase specifier importer).toList
  /-- Whether a specifier means a path, so that it cannot name a package. -/
  isRelative : String → Bool := Path.isRelative
  /-- Further modules that an import may mean, below the path of its module. -/
  members : ImportFact → String → List String := fun _ _ => []

end Interlink
