import PipelineRegistry.Json.Basic
import PipelineRegistry.Text.Quoted

/-!
# Problems of decoding

What can keep a JSON text from being decoded: the text is no JSON, or it has the wrong shape. A
wrong shape is a fault at a place inside the value.
-/

namespace PipelineRegistry.Json

open PipelineRegistry.Text

/-! ## Causes -/

/-- What was found where something else was expected. -/
inductive Found
  | null
  | boolean (value : Bool)
  | integer (value : Int)
  | float (value : Binary64)
  | text (value : String)
  | sequence
  | map
  deriving DecidableEq, Repr

/-- What was expected. -/
inductive Expected
  | text
  | int64
  | float64
  | boolean
  | sequence
  | unit
  | record (name : String)
  | described (phrase : String)
  deriving DecidableEq, Repr

/-- What is wrong with the shape of a value. -/
inductive Fault
  | wrongType (found : Found) (expected : Expected)
  | wrongValue (found : Found) (expected : Expected)
  | tooFewItems (count : Nat) (name : String) (size : Nat)
  | tooManyItems (count : Nat)
  | duplicateField (name : String)
  | missingField (name : String)
  | unknownVariant (name : String) (variants : List String)
  deriving DecidableEq, Repr

/-- One step from a value to a value inside it. -/
inductive Step
  | member (key : String)
  | item (index : Nat)
  deriving DecidableEq, Repr

/-- Why a value could not be decoded. -/
inductive Problem
  | malformed
  | mismatch (place : List Step) (fault : Fault)
  deriving DecidableEq, Repr

namespace Problem

/-- A problem inside a value, seen from the value around it. -/
def inside (step : Step) : Problem → Problem
  | malformed => malformed
  | mismatch place fault => mismatch (step :: place) fault

/-- In a text, items that no field takes are an error of the text. -/
def ofText : Problem → Problem
  | mismatch _ (.tooManyItems _) => malformed
  | other => other

end Problem

/-! ## Messages -/

/-- What was found, as it is named in messages. -/
def Found.message : Found → String
  | null => "null"
  | boolean value => "boolean `" ++ (if value then "true" else "false") ++ "`"
  | integer value => "integer `" ++ Decimal.ofInt value ++ "`"
  | float value => "floating point `" ++ value.format .message ++ "`"
  | text value => "string " ++ quote value
  | sequence => "sequence"
  | map => "map"

/-- What was expected, as it is named in messages. -/
def Expected.message : Expected → String
  | text => "a string"
  | int64 => "i64"
  | float64 => "f64"
  | boolean => "a boolean"
  | sequence => "a sequence"
  | unit => "unit"
  | record name => "struct " ++ name
  | described phrase => phrase

/-- The names of variants in a message. -/
def variantNames : List String → String
  | [] => ""
  | [only] => "`" ++ only ++ "`"
  | [first, second] => "`" ++ first ++ "` or `" ++ second ++ "`"
  | many => "one of " ++ ", ".intercalate (many.map fun name => "`" ++ name ++ "`")

/-- The text of a fault. -/
def Fault.message : Fault → String
  | wrongType found expected =>
      "invalid type: " ++ found.message ++ ", expected " ++ expected.message
  | wrongValue found expected =>
      "invalid value: " ++ found.message ++ ", expected " ++ expected.message
  | tooFewItems count name size =>
      "invalid length " ++ Decimal.ofNat count ++ ", expected struct " ++ name ++ " with " ++
        Decimal.ofNat size ++ (if size = 1 then " element" else " elements")
  | tooManyItems count =>
      "invalid length " ++ Decimal.ofNat count ++ ", expected fewer elements in array"
  | duplicateField name => "duplicate field `" ++ name ++ "`"
  | missingField name => "missing field `" ++ name ++ "`"
  | unknownVariant name variants =>
      "unknown variant `" ++ name ++ "`, expected " ++ variantNames variants

/-- A place as text: keys with dots between them and indices in brackets. -/
def placeText : List Step → String
  | [] => ""
  | .member key :: rest => key ++ continued rest
  | .item index :: rest => "[" ++ Decimal.ofNat index ++ "]" ++ continued rest
where
  continued : List Step → String
    | [] => ""
    | .member key :: rest => "." ++ key ++ continued rest
    | .item index :: rest => "[" ++ Decimal.ofNat index ++ "]" ++ continued rest

end PipelineRegistry.Json
