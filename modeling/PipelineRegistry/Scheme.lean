import PipelineRegistry.Json.Decode
import PipelineRegistry.Text.Blank

/-!
# Schemes of extract sources

The scheme of a source tells how its contents are addressed. Five schemes are known by name; any
other name is kept in capitals.
-/

namespace PipelineRegistry

open PipelineRegistry.Text

/-- The kind of data that an extract source delivers. -/
inductive Scheme
  | csv
  | xml
  | json
  | api
  | xlsx
  | other (name : String)
  deriving DecidableEq, Repr

namespace Scheme

/-- The name of a scheme in capitals. -/
def text : Scheme → String
  | csv => "CSV"
  | xml => "XML"
  | json => "JSON"
  | api => "API"
  | xlsx => "XLSX"
  | other name => name

/-- The scheme that a trimmed name in capitals stands for. -/
def ofName : String → Scheme
  | "CSV" => csv
  | "XML" => xml
  | "JSON" => json
  | "API" => api
  | "XLSX" => xlsx
  | name => other name

/-- The scheme that a text names, in any case and with blanks around it; a blank text names none. -/
def ofText? (source : String) : Option Scheme :=
  let name := upper (trim source)
  if name.isEmpty then none else some (ofName name)

/-- The message for a text that names no scheme. -/
def emptyMessage : String :=
  "scheme must not be empty"

/-! ## JSON -/

/-- What is expected where a scheme is decoded. -/
def expected : Json.Expected :=
  .described "a non-empty scheme name such as CSV, XML, JSON, API or XLSX"

/-- A scheme by its name. -/
def decode : Json.Decoder Scheme
  | .text value =>
      match ofText? value with
      | some scheme => .ok scheme
      | none => .error (.mismatch [] (.wrongValue (.text value) expected))
  | content => Json.unexpected expected content

/-- The name of a scheme. -/
def encode (scheme : Scheme) : Json :=
  .text scheme.text

end Scheme

end PipelineRegistry
