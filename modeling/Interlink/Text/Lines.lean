import Interlink.Text.Cut

/-!
# Lines

A line ends at a line feed, or at a carriage return and a line feed; the last line may lack its end.
-/

namespace Interlink.Text

def stripReturn (s : List Char) : List Char := if s.getLast? = some '\r' then s.dropLast else s

def lines (s : List Char) : List (List Char) :=
  let pieces := split (· = '\n') s
  let last := pieces.getLast?.getD []
  pieces.dropLast.map stripReturn ++ if last = [] then [] else [last]

def words (isBlank : Char → Bool) (s : List Char) : List (List Char) := runs (!isBlank ·) s

end Interlink.Text
