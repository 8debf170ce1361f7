/-!
# Quotes around a text
-/

namespace Interlink.Text

def isQuote (c : Char) : Bool := c = '\x27' || c = '\x22' || c = '\x60'

/-- The text without the quotes at its ends, however many there are. -/
def unquote (s : String) : String :=
  String.ofList (((s.toList.dropWhile isQuote).reverse.dropWhile isQuote).reverse)

end Interlink.Text
