import Interlink.Text.Alphanumeric
import Interlink.Text.LowerCase

/-!
# Slugs

A slug names something in an identifier: the runs of letters and digits of its name in lower case, with
dashes between them.
-/

namespace Interlink.Text

/-- The slug of a text behind one that has made `made`. Characters that are no letters or digits
leave a dash pending, which is put before the next letter or digit, but not at the start. -/
def slugFrom (made : List Char) (pending : Bool) : List Char → List Char
  | [] => made
  | c :: rest =>
    if isAlphanumeric c then
      slugFrom ((if pending && !made.isEmpty then made ++ ['-'] else made) ++ lowerChar c) false rest
    else slugFrom made true rest

def slug (name : String) : String := String.ofList (slugFrom [] false name.toList)

end Interlink.Text
