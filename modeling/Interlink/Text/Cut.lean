/-!
# Cutting texts

Texts cut at a separator, and texts without a given beginning or end.
-/

namespace Interlink.Text

def split (sep : Char → Bool) : List Char → List (List Char)
  | [] => [[]]
  | c :: rest =>
    if sep c then [] :: split sep rest
    else match split sep rest with
      | piece :: pieces => (c :: piece) :: pieces
      | [] => [[c]]

def pieces (sep : Char) (s : String) : List String := (split (· = sep) s.toList).map String.ofList

def runs (p : Char → Bool) (s : List Char) : List (List Char) := (split (!p ·) s).filter (· ≠ [])

def cutLast? (sep : Char) (s : String) : Option (String × String) :=
  match s.toList.reverse.span (· ≠ sep) with
  | (_, []) => none
  | (after, _ :: before) => some (String.ofList before.reverse, String.ofList after.reverse)

def startsWith (s start : String) : Bool := start.toList.isPrefixOf s.toList

def endsWith (s ending : String) : Bool := ending.toList.isSuffixOf s.toList

def holds (part : List Char) : List Char → Bool
  | [] => part.isEmpty
  | c :: rest => part.isPrefixOf (c :: rest) || holds part rest

def includes (s part : String) : Bool := holds part.toList s.toList

def withoutStart? (s start : String) : Option String :=
  if startsWith s start then some (String.ofList (s.toList.drop start.toList.length)) else none

def withoutEnd? (s ending : String) : Option String :=
  if endsWith s ending then some (String.ofList (s.toList.take (s.toList.length - ending.toList.length))) else none

def trimEndOf (c : Char) (s : String) : String := String.ofList ((s.toList.reverse.dropWhile (· = c)).reverse)

def join (sep : String) (parts : List String) : String := sep.intercalate parts

end Interlink.Text
