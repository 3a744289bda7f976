import PipelineRegistry.Text.Decimal

/-!
# Version tokens

Every write of a document counts its version up. Clients see the counter as a token of text only.
The token of a counter is its decimal numeral; any numeral of 64 bits with an optional sign can be
read.
-/

namespace PipelineRegistry

open PipelineRegistry.Text

/-- The token of a version. -/
structure Version where
  token : String
  deriving DecidableEq, Repr

namespace Version

/-- The token of a counter. -/
def ofCounter (counter : Int) : Version :=
  ⟨Decimal.ofInt counter⟩

/-- The counter that a token denotes, if it is a numeral within 64 bits. -/
def counter? (version : Version) : Option Int :=
  match version.token.toList with
  | '-' :: numeral => (Decimal.natural? (1 <<< 63) numeral).map fun size => -(size : Int)
  | '+' :: numeral => (Decimal.natural? ((1 <<< 63) - 1) numeral).map Int.ofNat
  | numeral => (Decimal.natural? ((1 <<< 63) - 1) numeral).map Int.ofNat

end Version

end PipelineRegistry
