import PipelineRegistry.Text.Decimal

/-!
# Punycode

The form in which a label with characters outside ASCII stands in the name of a host: its ASCII
characters, and behind a hyphen a numeral that says which other characters go where.
-/

namespace PipelineRegistry.Url.Punycode

/-! ## Parameters -/

/-- The number of digits. -/
def base : Nat := 36

/-- The least threshold of a digit. -/
def leastThreshold : Nat := 1

/-- The greatest threshold of a digit. -/
def greatestThreshold : Nat := 26

/-- The bias at the start. -/
def initialBias : Nat := 72

/-- The first code point that is not ASCII. -/
def firstCodePoint : Nat := 128

/-! ## Numerals -/

/-- The small letter or the digit for a number below thirty-six. -/
def digit (n : Nat) : Char :=
  Char.ofNat (if n < 26 then 'a'.toNat + n else '0'.toNat + (n - 26))

/-- The threshold at a place of a numeral. -/
def threshold (place bias : Nat) : Nat :=
  if place ≤ bias then leastThreshold
  else min greatestThreshold (max leastThreshold (place - bias))

/-- The digits of a number, the least significant first, from a place on. -/
def numeral (bias place number : Nat) : List Char :=
  let bound := threshold place bias
  if number < bound then [digit number]
  else
    let span := base - bound
    digit (bound + (number - bound) % span) ::
      if (number - bound) / span < number then
        numeral bias (place + base) ((number - bound) / span)
      else []
termination_by number

/-- Divides a distance until it is small, and counts the places. -/
def shrink (delta places : Nat) : Nat :=
  if delta ≤ 455 then places + 36 * delta / (delta + 38) else shrink (delta / 35) (places + base)
termination_by delta

/-- The bias behind a numeral. -/
def adapt (delta count : Nat) (isFirst : Bool) : Nat :=
  let damped := if isFirst then delta / 700 else delta / 2
  shrink (damped + damped / count) 0

/-! ## Labels -/

/-- What is known while a label is encoded: the distance that has been counted since the last
character that was written, the bias, and how many characters are written. -/
structure Progress where
  delta : Nat
  bias : Nat
  handled : Nat
  deriving Repr

/-- Goes once through the label and writes the characters with one code point. -/
def writePoint (point basic : Nat) : List Nat → Progress → List Char × Progress
  | [], progress => ([], progress)
  | code :: rest, progress =>
      if code < point then writePoint point basic rest { progress with delta := progress.delta + 1 }
      else if code = point then
        let written := numeral progress.bias base progress.delta
        let next : Progress :=
          { delta := 0
            bias := adapt progress.delta (progress.handled + 1) (progress.handled = basic)
            handled := progress.handled + 1 }
        let (behind, last) := writePoint point basic rest next
        (written ++ behind, last)
      else writePoint point basic rest progress

/-- Writes the characters with the given code points, which are those of the label that are not
ASCII, in order and without repetition. -/
def writePoints (label : List Nat) (basic reached : Nat) : List Nat → Progress → List Char
  | [], _ => []
  | point :: rest, progress =>
      let delta := progress.delta + (point - reached) * (progress.handled + 1)
      let (written, next) := writePoint point basic label { progress with delta := delta }
      written ++ writePoints label basic (point + 1) rest { next with delta := next.delta + 1 }

/-- The numeral of a label and the ASCII characters before it. -/
def encode (label : List Char) : List Char :=
  let codes := label.map Char.toNat
  let basic := label.filter fun c => c.toNat < firstCodePoint
  let points := (codes.filter fun code => firstCodePoint ≤ code).mergeSort.eraseDups
  let start : Progress := ⟨0, initialBias, basic.length⟩
  basic ++ (if basic.isEmpty then [] else ['-']) ++
    writePoints codes basic.length firstCodePoint points start

end PipelineRegistry.Url.Punycode
