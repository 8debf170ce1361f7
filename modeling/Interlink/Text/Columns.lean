/-!
# Columns

Texts made to fit the columns of a listing. Widths count characters.
-/

namespace Interlink.Text

def padEnd (width : Nat) (s : String) : String := s.pushn ' ' (width - s.length)

def padStart (width : Nat) (s : String) : String := "".pushn ' ' (width - s.length) ++ s

/-- The text, cut short with three dots if it is longer than `most` characters. -/
def shortened (most : Nat) (s : String) : String :=
  if most < s.length then String.ofList (s.toList.take most) ++ "..." else s

def listed (texts : List String) : String :=
  let text := ", ".intercalate texts
  if text.isEmpty then "-" else text

end Interlink.Text
