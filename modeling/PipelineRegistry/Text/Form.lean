import PipelineRegistry.Text.Decimal
import PipelineRegistry.Text.Percent

/-!
# Form encoding

The query of an address is a list of pairs. In the texts of a pair a space becomes a plus sign and
everything but ASCII letters, digits and four marks is percent encoded.
-/

namespace PipelineRegistry.Text.Form

/-! ## Texts -/

/-- An ASCII letter or digit. -/
def isAlphanumeric (c : Char) : Bool :=
  Decimal.isDigit c || ('a' ≤ c && c ≤ 'z') || ('A' ≤ c && c ≤ 'Z')

/-- The characters that stand for themselves. -/
def keeps (c : Char) : Bool :=
  isAlphanumeric c || c = '*' || c = '-' || c = '.' || c = '_'

/-- A text in its encoded form. -/
def encode (text : List Char) : List Char :=
  (Percent.encode (fun c => keeps c || c = ' ') text).map fun c => if c = ' ' then '+' else c

/-- The bytes of an encoded text. -/
def decode (encoded : List Char) : List UInt8 :=
  Percent.decodeBytes ((Percent.utf8 encoded).map fun byte => if byte = 0x2B then 0x20 else byte)

/-! ## Pairs -/

/-- A pair as it stands in a query. -/
def encodePair (key value : List Char) : List Char :=
  encode key ++ '=' :: encode value

/-- The key and the value of a pair. Without an equals sign the value is empty. -/
def decodePair (pair : List Char) : List UInt8 × List UInt8 :=
  (decode (pair.takeWhile (· != '=')), decode ((pair.dropWhile (· != '=')).drop 1))

/-- The pairs of a query. Empty parts are no pairs. -/
def pairs (query : List Char) : List (List UInt8 × List UInt8) :=
  ((query.splitOn '&').filter fun part => !part.isEmpty).map decodePair

end PipelineRegistry.Text.Form
