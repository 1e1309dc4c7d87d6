import FeatureCatalog.Json.Printer
import FeatureCatalog.Text.Printable

/-! The ways in which a JSON value is not of the shape that its reader wants, and their wording. -/

namespace FeatureCatalog

/-- What stands where something else is wanted. -/
inductive Found where
  | null
  | bool (value : Bool)
  | number (value : Number)
  | text (value : String)
  | list
  | object
  deriving DecidableEq

/-- What a value is, in a message about it. -/
def Json.found : Json → Found
  | .null => .null
  | .bool b => .bool b
  | .num n => .number n
  | .str s => .text s
  | .arr _ => .list
  | .obj _ => .object

/-- What a reader wants. -/
inductive Wanted where
  | text
  | boolean
  | word
  | list
  | object
  | record (name : String)
  | choice
  | singleEntry
  | unit
  deriving DecidableEq

/-- Why a value could not be read. -/
inductive Mismatch where
  | wrongType (found : Found) (wanted : Wanted)
  | wrongValue (found : Found) (wanted : Wanted)
  | missingField (name : String)
  | duplicateField (name : String)
  | unknownVariant (found : String) (variants : List String)
  | tooShort (length : Nat) (record : String) (size : Nat)
  | tooLong (length : Nat)
  | noAlternative (name : String)
  deriving DecidableEq

/-- What was found, in words. -/
def Found.message : Found → String
  | .null => "null"
  | .bool true => "boolean `true`"
  | .bool false => "boolean `false`"
  | .number n@(.integer _ _) => "integer `" ++ n.print ++ "`"
  | .number n@(.float _) => "floating point `" ++ n.print ++ "`"
  | .text s => "string " ++ Text.quoted s
  | .list => "sequence"
  | .object => "map"

/-- What was wanted, in words. -/
def Wanted.message : Wanted → String
  | .text => "a string"
  | .boolean => "a boolean"
  | .word => "u64"
  | .list => "a sequence"
  | .object => "a map"
  | .record name => "struct " ++ name
  | .choice => "string or map"
  | .singleEntry => "map with a single key"
  | .unit => "unit"

/-- The names that a choice offers, in words. -/
def variantsMessage : List String → String
  | [] => "there are no variants"
  | [a] => "expected `" ++ a ++ "`"
  | [a, b] => "expected `" ++ a ++ "` or `" ++ b ++ "`"
  | variants => "expected one of " ++ ", ".intercalate (variants.map fun v => "`" ++ v ++ "`")

/-- The wording of a mismatch. -/
def Mismatch.message : Mismatch → String
  | .wrongType found wanted => "invalid type: " ++ found.message ++ ", expected " ++ wanted.message
  | .wrongValue found wanted =>
    "invalid value: " ++ found.message ++ ", expected " ++ wanted.message
  | .missingField name => "missing field `" ++ name ++ "`"
  | .duplicateField name => "duplicate field `" ++ name ++ "`"
  | .unknownVariant found variants =>
    "unknown variant `" ++ found ++ "`, " ++ variantsMessage variants
  | .tooShort length record size =>
    "invalid length " ++ toString length ++ ", expected struct " ++ record ++ " with " ++
      toString size ++ (if size = 1 then " element" else " elements")
  | .tooLong length =>
    "invalid length " ++ toString length ++ ", expected fewer elements in array"
  | .noAlternative name => "data did not match any variant of untagged enum " ++ name

end FeatureCatalog
