import PipelineRegistry.Text.Hex

/-!
# Identifiers

New entities get identifiers of 128 bits that begin with the time at which they were made, so that
their texts sort in the order of their making. Identifiers of one millisecond are told apart by
counting. The layout is version 7 of universally unique identifiers.
-/

namespace PipelineRegistry

open PipelineRegistry.Text

/-- An identifier by the milliseconds of its making and its number among those of one millisecond.
-/
structure Identifier where
  milliseconds : Nat
  number : Nat
  deriving DecidableEq, Repr

namespace Identifier

/-- The first identifier of a millisecond. -/
def first (milliseconds : Nat) : Identifier :=
  ⟨milliseconds, 0⟩

/-- The identifier behind another one at a given time. A clock that stands still or goes back does
not disturb the order. -/
def next (previous : Identifier) (milliseconds : Nat) : Identifier :=
  if previous.milliseconds < milliseconds then first milliseconds
  else { previous with number := previous.number + 1 }

/-- The digits of an identifier: 48 bits of time, the version in 4, 12 bits of the number, the
variant in 2, and 62 bits of the number. -/
def digits (identifier : Identifier) : List Char :=
  Hex.fixed 12 identifier.milliseconds ++ '7' :: Hex.fixed 3 (identifier.number >>> 62) ++
    Hex.fixed 16 ((1 <<< 63) + identifier.number % (1 <<< 62))

/-- An identifier as text, in five groups of digits. -/
def text (identifier : Identifier) : String :=
  let digits := identifier.digits
  let group (start size : Nat) : List Char := (digits.drop start).take size
  String.ofList <|
    group 0 8 ++ '-' :: group 8 4 ++ '-' :: group 12 4 ++ '-' :: group 16 4 ++ '-' :: group 20 12

/-- As many identifiers as asked for, made at one time. -/
def series (start : Identifier) : Nat → List Identifier
  | 0 => []
  | count + 1 => start :: series (start.next start.milliseconds) count

end Identifier

/-! ## Texts of identifiers -/

/-- The shape of the text: groups of 8, 4, 4, 4 and 12 hexadecimal digits, with the version and the
variant at the start of the third and the fourth. -/
def isIdentifierText (text : String) : Bool :=
  let isHex (c : Char) : Bool := (Hex.digitValue? c).isSome
  match text.toList.splitOn '-' with
  | [high, middle, version, variant, low] =>
      [high, middle, version, variant, low].map List.length == [8, 4, 4, 4, 12] &&
        [high, middle, version, variant, low].all (·.all isHex) &&
        version.head? == some '7' && "89ab".toList.any (some · == variant.head?)
  | _ => false

/-- Every text comes before the one behind it. -/
def areIncreasing : List String → Bool
  | first :: second :: rest => first < second && areIncreasing (second :: rest)
  | _ => true

end PipelineRegistry
