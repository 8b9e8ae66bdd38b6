import Overhead.Data.Tree
import Overhead.Decimal.Shortest
import Overhead.Text.Quoted

/-!
# Why data does not fit

A decoder that meets data of another form says what it found and what it expected. The wording of
every such error is here.
-/

namespace Overhead

inductive DecodeError where
  /-- Data of another type than expected. -/
  | wrongType (found : Data) (expected : String)
  /-- A whole number outside the range of the expected type. -/
  | outOfRange (found : Int) (expected : String)
  /-- A name that is not among the names of a choice. -/
  | unknownVariant (name : String) (known : List String)
  | missingField (name : String)
  /-- A list of the wrong length. -/
  | wrongLength (found : Nat) (expected : String)
  /-- A choice that is given neither by name nor as a table. -/
  | notAChoice
  /-- A table that names no choice. -/
  | choiceMissing
  /-- A table that names several choices. -/
  | choiceAmbiguous
  /-- A named choice with contents. -/
  | choiceNotEmpty
  /-- A named choice with something else than a table. -/
  | choiceNotTable (found : Data)

namespace Data

/-- How an error calls the data that was found. -/
def describe : Data → String
  | .null => "null"
  | .bool value => "boolean " ++ Quoted.ticked (if value then "true" else "false")
  | .int value => "integer " ++ Quoted.ticked (toString value)
  | .float value => "floating point " ++ Quoted.ticked (Decimal.ofFloat value)
  | .text value => "string " ++ Quoted.quote value
  | .list _ | .sections _ => "sequence"
  | .date | .table _ => "map"

def typeName : Data → String
  | .null => "none"
  | .bool _ => "boolean"
  | .int _ => "integer"
  | .float _ => "float"
  | .text _ => "string"
  | .date => "datetime"
  | .list _ => "array"
  | .sections _ => "array of tables"
  | .table _ => "inline table"

end Data

namespace DecodeError

/-- The names a choice has, as an error lists them. -/
def alternatives : List String → String
  | [] => "there are no variants"
  | [a] => "expected " ++ Quoted.ticked a
  | [a, b] => "expected " ++ Quoted.ticked a ++ " or " ++ Quoted.ticked b
  | names => "expected one of " ++ ", ".intercalate (names.map Quoted.ticked)

def message : DecodeError → String
  | .wrongType found expected => "invalid type: " ++ found.describe ++ ", expected " ++ expected
  | .outOfRange found expected =>
      "invalid value: integer " ++ Quoted.ticked (toString found) ++ ", expected " ++ expected
  | .unknownVariant name known =>
      "unknown variant " ++ Quoted.ticked name ++ ", " ++ alternatives known
  | .missingField name => "missing field " ++ Quoted.ticked name
  | .wrongLength found expected =>
      "invalid length " ++ toString found ++ ", expected " ++ expected
  | .notAChoice => "wanted string or table"
  | .choiceMissing => "wanted exactly 1 element, found 0 elements"
  | .choiceAmbiguous => "wanted exactly 1 element, more than 1 element"
  | .choiceNotEmpty => "expected empty table"
  | .choiceNotTable found => "expected table, found " ++ found.typeName

end DecodeError
end Overhead
