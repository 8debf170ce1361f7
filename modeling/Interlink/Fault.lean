/-!
# Faults

What is wrong with data that should have a certain shape, and how that is put into words.
-/

namespace Interlink

inductive Fault where
  | malformed
  | invalidType (found expected : String)
  | invalidValue (found expected : String)
  | invalidLength (length : Nat) (expected : String)
  | unknownVariant (found : String) (variants : List String)
  | missingField (name : String)
  | duplicateField (name : String)
  | inPart (path : String) (fault : Fault)
deriving DecidableEq, Repr

namespace Fault

def ticked (s : String) : String := "`" ++ s ++ "`"

def choice : List String → String
  | [] => "there are no variants"
  | [a] => "expected " ++ ticked a
  | [a, b] => "expected " ++ ticked a ++ " or " ++ ticked b
  | names => "expected one of " ++ ", ".intercalate (names.map ticked)

def message : Fault → String
  | malformed => "<syntax>"
  | invalidType found expected => "invalid type: " ++ found ++ ", expected " ++ expected
  | invalidValue found expected => "invalid value: " ++ found ++ ", expected " ++ expected
  | invalidLength n expected => "invalid length " ++ toString n ++ ", expected " ++ expected
  | unknownVariant found variants => "unknown variant " ++ ticked found ++ ", " ++ choice variants
  | missingField name => "missing field " ++ ticked name
  | duplicateField name => "duplicate field " ++ ticked name
  | inPart path fault => path ++ ": " ++ fault.message

end Fault

end Interlink
