import HubSpoke.Json.Text
import HubSpoke.Text.Quoted

/-!
# Why a value is not of a type

A decoder answers with a value or with one `Mismatch`: what stood where, and what was expected
there.  The wording is in `Mismatch.message` alone.
-/

namespace HubSpoke

/-- What a decoder came upon. -/
inductive Found where
  | null
  | flag (value : Bool)
  | whole (value : Int)
  | float (value : Binary64)
  | text (value : String)
  | sequence
  | map
deriving DecidableEq, Repr

/-- What a decoder finds in a value. -/
def Json.found : Json → Found
  | .null => .null
  | .bool value => .flag value
  | .int value => .whole value
  | .float value => .float value
  | .str value => .text value
  | .arr _ => .sequence
  | .obj _ => .map

/-- What a decoder was after. -/
inductive Expected where
  | text
  | flag
  | sequence
  | map
  | int32
  | int64
  /-- A count that fits 64 bits. -/
  | size
  /-- The null under the key of a choice written as an object. -/
  | unit
  /-- One of a set of names. -/
  | choice
  /-- A choice written as an object. -/
  | singleKey
  | record (name : String)
  /-- A record written as an array, with its number of fields. -/
  | recordOf (name : String) (count : Nat)
  | fewerItems
  | items (count : Nat)
deriving DecidableEq, Repr

/-- Why a value does not decode. -/
inductive Mismatch where
  | wrongType (found : Found) (expected : Expected)
  | wrongValue (found : Found) (expected : Expected)
  | wrongLength (length : Nat) (expected : Expected)
  | missingField (field : String)
  | repeatedField (field : String)
  | unknownVariant (variant : String) (known : List String)
deriving DecidableEq, Repr

/-! ## Wording -/

/-- How what was found is named. -/
def Found.message : Found → String
  | .null => "null"
  | .flag value => "boolean `" ++ (if value then "true" else "false") ++ "`"
  | .whole value => "integer `" ++ String.ofList (Json.wholeChars value) ++ "`"
  | .float value => "floating point `" ++ String.ofList (FloatFormat.ordinary.write value) ++ "`"
  | .text value => "string " ++ Text.quoted value
  | .sequence => "sequence"
  | .map => "map"

/-- A number of elements. -/
def elementCount (count : Nat) : String :=
  toString count ++ (if count = 1 then " element" else " elements")

/-- How what was expected is named. -/
def Expected.message : Expected → String
  | .text => "a string"
  | .flag => "a boolean"
  | .sequence => "a sequence"
  | .map => "a map"
  | .int32 => "i32"
  | .int64 => "i64"
  | .size => "usize"
  | .unit => "unit"
  | .choice => "string or map"
  | .singleKey => "map with a single key"
  | .record name => "struct " ++ name
  | .recordOf name count => "struct " ++ name ++ " with " ++ elementCount count
  | .fewerItems => "fewer elements in array"
  | .items count => elementCount count ++ " in sequence"

/-- The names a choice has, as alternatives. -/
def alternatives (known : List String) : String :=
  let quoted := known.map fun name => "`" ++ name ++ "`"
  match quoted with
  | [first, second] => first ++ " or " ++ second
  | [only] => only
  | _ => "one of " ++ ", ".intercalate quoted

def Mismatch.message : Mismatch → String
  | .wrongType found expected =>
      "invalid type: " ++ found.message ++ ", expected " ++ expected.message
  | .wrongValue found expected =>
      "invalid value: " ++ found.message ++ ", expected " ++ expected.message
  | .wrongLength length expected =>
      "invalid length " ++ toString length ++ ", expected " ++ expected.message
  | .missingField field => "missing field `" ++ field ++ "`"
  | .repeatedField field => "duplicate field `" ++ field ++ "`"
  | .unknownVariant variant known =>
      "unknown variant `" ++ variant ++ "`, expected " ++ alternatives known

end HubSpoke
