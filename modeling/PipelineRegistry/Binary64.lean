import PipelineRegistry.Text.Decimal

/-!
# Binary64 numbers

Floating point numbers by their 64 bits. Reading takes a decimal significand and scales it by powers
of ten in floating point; writing gives the fewest decimal digits that lie closer to the number than
to any other.
-/

namespace PipelineRegistry

open PipelineRegistry.Text

/-- A number of the binary64 format, given by its bits. -/
structure Binary64 where
  bits : UInt64
  deriving DecidableEq, Repr

namespace Binary64

/-! ## Parts of a number -/

/-- The number with the given value. -/
def ofFloat (value : Float) : Binary64 :=
  ⟨value.toBits⟩

/-- The sign bit is set. -/
def isNegative (x : Binary64) : Bool :=
  1 <<< 63 ≤ x.bits.toNat

/-- The eleven bits of the exponent. -/
def exponentField (x : Binary64) : Nat :=
  (x.bits.toNat >>> 52) % 2048

/-- The fifty-two bits of the fraction. -/
def fractionField (x : Binary64) : Nat :=
  x.bits.toNat % (1 <<< 52)

/-- Neither an infinity nor a number that is not one. -/
def isFinite (x : Binary64) : Bool :=
  x.exponentField < 2047

/-- The size of a finite number is the first part times two to the power of the second. -/
def magnitude (x : Binary64) : Nat × Int :=
  if x.exponentField = 0 then (x.fractionField, -1074)
  else (x.fractionField + (1 <<< 52), (x.exponentField : Int) - 1075)

/-! ## Reading -/

/-- The number nearest to a natural number below two to the power of sixty-four. -/
def natural (n : Nat) : Float :=
  n.toUInt64.toFloat

/-- The number nearest to an integer whose size is below two to the power of sixty-four. -/
def ofInt (n : Int) : Binary64 :=
  ofFloat (if n < 0 then -natural n.natAbs else natural n.natAbs)

/-- The number nearest to a power of ten. -/
def powerOfTen (n : Nat) : Float :=
  Float.ofScientific 1 false n

/-- The largest power of ten that is applied in one step. -/
def scaleLimit : Nat := 308

/-- Multiplies or divides by a power of ten, where a division may take several steps. Nothing is
answered if the product is too large. -/
def scale? (value : Float) (exponent : Int) : Option Float :=
  if 0 ≤ exponent then
    if exponent.toNat ≤ scaleLimit then
      let product := value * powerOfTen exponent.toNat
      if product.isInf then none else some product
    else if value == 0 then some value else none
  else if (-exponent).toNat ≤ scaleLimit then some (value / powerOfTen (-exponent).toNat)
  else if value == 0 then some value
  else scale? (value / powerOfTen scaleLimit) (exponent + scaleLimit)
termination_by (-exponent).toNat
decreasing_by
  simp only [scaleLimit] at *
  omega

/-- The number read from a sign, a significand below two to the power of sixty-four and a decimal
exponent, or nothing if it is too large. -/
def ofDecimal? (negative : Bool) (significand : Nat) (exponent : Int) : Option Binary64 :=
  (scale? (natural significand) exponent).map fun value =>
    ofFloat (if negative then -value else value)

/-! ## The shortest digits -/

/-- A positive fraction with the bounds of the values that round to it, over one denominator. -/
structure Interval where
  low : Nat
  middle : Nat
  high : Nat
  denominator : Nat
  closed : Bool
  deriving DecidableEq, Repr

/-- The reals that round to a number whose size is `significand` times two to the power of
`exponent`. Below a power of two the neighbours are closer. -/
def interval (significand : Nat) (exponent : Int) : Interval :=
  let step : Nat := if significand = 1 <<< 52 && -1074 < exponent then 1 else 2
  let factor := 1 <<< (exponent - 2).toNat
  { low := (4 * significand - step) * factor
    middle := 4 * significand * factor
    high := (4 * significand + 2) * factor
    denominator := 1 <<< (2 - exponent).toNat
    closed := significand % 2 = 0 }

/-- A significand on the grid of a power of ten lies in the interval. -/
def Interval.contains (i : Interval) (significand : Nat) (exponent : Int) : Bool :=
  let value := significand * Nat.pow 10 exponent.toNat * i.denominator
  let scaling := Nat.pow 10 (-exponent).toNat
  if i.closed then i.low * scaling ≤ value && value ≤ i.high * scaling
  else i.low * scaling < value && value < i.high * scaling

/-- The exponent of the leading decimal digit. -/
def Interval.leadingExponent (i : Interval) : Int :=
  if i.denominator ≤ i.middle then
    ((Decimal.digits (i.middle / i.denominator)).length : Int) - 1
  else
    let reaches (k : Nat) : Bool := i.denominator ≤ i.middle * Nat.pow 10 (k + 1)
    Int.negSucc (((List.range 400).find? reaches).getD 400)

/-- The point of the interval on the grid with the given number of digits, if there is one: of two
the nearer, and of two equally near the even one. -/
def Interval.onGrid? (i : Interval) (count : Nat) : Option (Nat × Int) :=
  let unit := i.leadingExponent - count + 1
  let numerator := i.middle * Nat.pow 10 (-unit).toNat
  let divisor := i.denominator * Nat.pow 10 unit.toNat
  let below := numerator / divisor
  let doubled := 2 * (numerator % divisor)
  let lower := i.contains below unit
  let upper := i.contains (below + 1) unit
  if lower && upper then
    if doubled < divisor || (doubled = divisor && below % 2 = 0) then some (below, unit)
    else some (below + 1, unit)
  else if lower then some (below, unit)
  else if upper then some (below + 1, unit)
  else none

/-- The fewest digits of a positive finite number, as a significand and a decimal exponent. The
point above nine on the grid of one digit is a power of ten, which has one digit as well. A point
with a zero at its end lies on a coarser grid too, so no other one is found. -/
def shortest (x : Binary64) : Nat × Int :=
  let (significand, exponent) := x.magnitude
  let i := interval significand exponent
  match (List.range 17).findSome? fun n => i.onGrid? (n + 1) with
  | some (10, unit) => (1, unit + 1)
  | some found => found
  | none => (0, 0)

/-! ## Writing -/

/-- How numbers are laid out as text. Numbers whose leading digit has an exponent between the two
bounds are written positionally, the others with an exponent of at least two digits. -/
structure Layout where
  leastPositional : Int
  greatestPositional : Int
  deriving DecidableEq, Repr

/-- The layout of numbers in messages. -/
def Layout.message : Layout :=
  ⟨-5, 15⟩

/-- Digits with a point at the place the exponent of the leading digit gives. A whole number keeps
one zero behind the point. -/
def positional (digits : List Char) (leading : Int) : List Char :=
  if leading < 0 then
    ['0', '.'] ++ List.replicate ((-leading).toNat - 1) '0' ++ digits
  else
    let whole := leading.toNat + 1
    if digits.length ≤ whole then
      digits ++ List.replicate (whole - digits.length) '0' ++ ['.', '0']
    else digits.take whole ++ '.' :: digits.drop whole

/-- Digits with the point behind the first, and the exponent with its sign. -/
def exponential (digits : List Char) (leading : Int) : List Char :=
  let sign := if leading < 0 then '-' else '+'
  digits.take 1 ++ (if digits.length ≤ 1 then [] else '.' :: digits.drop 1) ++
    ['e', sign] ++ Decimal.padded 2 leading.natAbs

/-- A finite number as text. -/
def format (layout : Layout) (x : Binary64) : String :=
  let sign : List Char := if x.isNegative then ['-'] else []
  if x.magnitude.1 = 0 then String.ofList (sign ++ ['0', '.', '0'])
  else
    let (significand, exponent) := x.shortest
    let digits := Decimal.digits significand
    let leading := exponent + digits.length - 1
    let positionally := layout.leastPositional ≤ leading && leading ≤ layout.greatestPositional
    String.ofList <| sign ++
      if positionally then positional digits leading else exponential digits leading

end Binary64

end PipelineRegistry
