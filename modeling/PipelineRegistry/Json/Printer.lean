import PipelineRegistry.Json.Basic
import PipelineRegistry.Text.Hex

/-!
# Writing JSON

JSON text without blanks. Quotes, backslashes and controls are escaped, and every other character is
written as it is. What could not be read is written as `null`, and so is a number that is not
finite.
-/

namespace PipelineRegistry.Json

open PipelineRegistry.Text

/-! ## Texts -/

/-- How one character is written inside a text. -/
def escapeChar (c : Char) : List Char :=
  match c with
  | '"' => ['\\', '"']
  | '\\' => ['\\', '\\']
  | '\n' => ['\\', 'n']
  | '\r' => ['\\', 'r']
  | '\t' => ['\\', 't']
  | '\x08' => ['\\', 'b']
  | '\x0c' => ['\\', 'f']
  | c => if c.toNat < 0x20 then ['\\', 'u'] ++ Hex.fixed 4 c.toNat else [c]

/-- A text between double quotes. -/
def printText (text : String) : List Char :=
  '"' :: (text.toList.flatMap escapeChar ++ ['"'])

/-! ## Values -/

/-- Parts with a comma between each two. -/
def commaSeparated : List (List Char) → List Char
  | [] => []
  | [only] => only
  | first :: rest => first ++ ',' :: commaSeparated rest

mutual

/-- A value as a list of characters. -/
def printChars : Json → List Char
  | .null | .unreadable | .broken => "null".toList
  | .boolean value => (if value then "true" else "false").toList
  | .integer value => (Decimal.ofInt value).toList
  | .float value => if value.isFinite then (value.format .message).toList else "null".toList
  | .text value => printText value
  | .array items _ => '[' :: (commaSeparated (printItems items) ++ [']'])
  | .object members _ => '\x7b' :: (commaSeparated (printMembers members) ++ ['\x7d'])

/-- Every item as a list of characters. -/
def printItems : List Json → List (List Char)
  | [] => []
  | item :: rest => printChars item :: printItems rest

/-- Every member with a key as a list of characters. -/
def printMembers : List (Option String × Json) → List (List Char)
  | [] => []
  | (none, _) :: rest => printMembers rest
  | (some key, value) :: rest => (printText key ++ ':' :: printChars value) :: printMembers rest

end

/-- A value as text. -/
def print (json : Json) : String :=
  String.ofList (printChars json)

end PipelineRegistry.Json
