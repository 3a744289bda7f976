import PipelineRegistry.ColumnPath.JsonPath.Grammar
import PipelineRegistry.ColumnPath.XPath.Grammar
import PipelineRegistry.Scheme
import PipelineRegistry.Text.Quoted

/-!
# Column paths

A rule finds its column by a path whose language depends on the scheme of the source: an index for
CSV, an XPath expression for XML and a JSONPath query for JSON. Other schemes take any path.
-/

namespace PipelineRegistry.ColumnPath

open PipelineRegistry.Text

/-- Why a path is not valid. -/
inductive PathError
  | invalidOrdinal (path : String)
  | invalidXPath (path : String) (isEmpty : Bool)
  | invalidJsonPath (path : String)
  deriving DecidableEq, Repr

/-- The text of an error. -/
def PathError.message : PathError → String
  | invalidOrdinal path =>
      "column path " ++ quote path ++ " is not a non-negative column index"
  | invalidXPath path isEmpty =>
      "column path " ++ quote path ++ " is not a valid XPath expression" ++
        if isEmpty then ": expression is empty" else ""
  | invalidJsonPath path =>
      "column path " ++ quote path ++ " is not a valid JSONPath expression"

/-- The largest column index. -/
def ordinalLimit : Nat :=
  (1 <<< 64) - 1

/-- A column index is a numeral without a sign that does not pass the largest index. -/
def isOrdinal (path : String) : Bool :=
  (Decimal.natural? ordinalLimit path.toList).isSome

/-- Checks a path against the scheme of its source. Without a known scheme nothing is checked. -/
def validate (scheme : Option Scheme) (path : String) : Except PathError Unit :=
  match scheme with
  | some .csv => if isOrdinal path then .ok () else .error (.invalidOrdinal path)
  | some .xml =>
      match XPath.judge path.toList with
      | .valid => .ok ()
      | .empty => .error (.invalidXPath path true)
      | .invalid => .error (.invalidXPath path false)
  | some .json =>
      if JsonPath.isQuery path.toList then .ok () else .error (.invalidJsonPath path)
  | _ => .ok ()

end PipelineRegistry.ColumnPath
