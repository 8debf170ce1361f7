/-!
# Code point ranges

A character class beyond ASCII is a table of inclusive code point ranges.
-/

namespace Interlink.Text

/-- Inclusive ranges of code points, in increasing order. -/
abbrev Ranges := List (Nat × Nat)

def Ranges.contains (table : Ranges) (c : Char) : Bool :=
  table.any fun (lo, hi) => lo ≤ c.toNat && c.toNat ≤ hi

end Interlink.Text
