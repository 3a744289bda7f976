import PipelineRegistry.Text.Hex
import PipelineRegistry.Text.Printable

/-!
# Quoted text

Text in messages stands in double quotes. A quote, a backslash and four controls have escapes of
two characters; every other character that is not printable is written by its code point.
-/

namespace PipelineRegistry.Text

/-- How one character is written between double quotes. -/
def escape (c : Char) : List Char :=
  match c with
  | '"' => ['\\', '"']
  | '\\' => ['\\', '\\']
  | '\t' => ['\\', 't']
  | '\r' => ['\\', 'r']
  | '\n' => ['\\', 'n']
  | '\x00' => ['\\', '0']
  | c =>
      if isPrintable c then [c]
      else ['\\', 'u', '\x7b'] ++ Hex.digits c.toNat ++ ['\x7d']

/-- A text in double quotes. -/
def quote (text : String) : String :=
  String.ofList ('"' :: (text.toList.flatMap escape ++ ['"']))

end PipelineRegistry.Text
