import PipelineRegistry.Text.Decimal

/-!
# Durations

Spans of time in whole nanoseconds, up to a longest one at which arithmetic saturates. A duration is
written in the largest unit in which it is at least one, with its exact fraction.
-/

namespace PipelineRegistry

open PipelineRegistry.Text

/-- The nanoseconds of a millisecond. -/
def nanosecondsPerMillisecond : Nat :=
  1_000_000

/-- The nanoseconds of a second. -/
def nanosecondsPerSecond : Nat :=
  1_000_000_000

/-- The nanoseconds of the longest duration: all seconds that 64 bits can count, and all but one
nanosecond of one more. -/
def longestNanoseconds : Nat :=
  (1 <<< 64) * nanosecondsPerSecond - 1

/-- A span of time that is not longer than the longest one. -/
structure Duration where
  nanoseconds : Nat
  bounded : nanoseconds ≤ longestNanoseconds
  deriving DecidableEq, Repr

namespace Duration

/-- The duration of that many nanoseconds, or the longest one. -/
def ofNanoseconds (nanoseconds : Nat) : Duration :=
  ⟨min nanoseconds longestNanoseconds, Nat.min_le_right _ _⟩

/-- The duration of that many milliseconds, or the longest one. -/
def ofMilliseconds (milliseconds : Nat) : Duration :=
  ofNanoseconds (milliseconds * nanosecondsPerMillisecond)

/-- The duration of that many seconds, or the longest one. -/
def ofSeconds (seconds : Nat) : Duration :=
  ofNanoseconds (seconds * nanosecondsPerSecond)

/-- The whole seconds of a duration. -/
def seconds (d : Duration) : Nat :=
  d.nanoseconds / nanosecondsPerSecond

/-- The nanoseconds of a duration beyond its whole seconds. -/
def subsecond (d : Duration) : Nat :=
  d.nanoseconds % nanosecondsPerSecond

/-- A multiple of a duration, or the longest one. -/
def times (d : Duration) (factor : Nat) : Duration :=
  ofNanoseconds (d.nanoseconds * factor)

/-- The shorter of two durations. -/
def shorter (left right : Duration) : Duration :=
  if left.nanoseconds ≤ right.nanoseconds then left else right

/-- The milliseconds after which a duration has surely passed. -/
def ticks (d : Duration) : Nat :=
  (d.nanoseconds + (nanosecondsPerMillisecond - 1)) / nanosecondsPerMillisecond

/-! ## Text -/

/-- A whole number of units and the fraction of one, given in digits of the unit. Zeros at the end
of the fraction are left out, and so is an empty fraction. -/
def inUnit (digits : Nat) (unitName : String) (nanoseconds : Nat) : String :=
  let scale := Nat.pow 10 digits
  let fraction :=
    ((Decimal.padded digits (nanoseconds % scale)).reverse.dropWhile (· == '0')).reverse
  String.ofList (Decimal.digits (nanoseconds / scale) ++
      if nanoseconds % scale = 0 then [] else '.' :: fraction) ++
    unitName

/-- A duration as text. -/
def text (d : Duration) : String :=
  if nanosecondsPerSecond ≤ d.nanoseconds then inUnit 9 "s" d.nanoseconds
  else if nanosecondsPerMillisecond ≤ d.nanoseconds then inUnit 6 "ms" d.nanoseconds
  else if 1000 ≤ d.nanoseconds then inUnit 3 "µs" d.nanoseconds
  else inUnit 0 "ns" d.nanoseconds

end Duration

end PipelineRegistry
