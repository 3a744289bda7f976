import PipelineRegistry.Duration

/-!
# Retry policies

How often a change that met another one is tried, and how long it waits in between. The wait grows
by a factor with every attempt until it reaches a maximum.
-/

namespace PipelineRegistry

/-- The numbers of attempts and factors are words of 32 bits. -/
def wordLimit : Nat :=
  (1 <<< 32) - 1

/-- A power that stops at the largest word. A base of two or more passes it within 32 steps. -/
def saturatingPower (base exponent : Nat) : Nat :=
  if base ≤ 1 then if exponent = 0 then 1 else base
  else if exponent < 32 then min (Nat.pow base exponent) wordLimit
  else wordLimit

/-- How often to try, and how the waits between the attempts grow. -/
structure RetryPolicy where
  maxAttempts : UInt32
  coefficient : UInt32
  initial : Duration
  maximum : Option Duration
  deriving DecidableEq, Repr

namespace RetryPolicy

/-- Five attempts, with waits that double from ten up to five hundred milliseconds. -/
def standard : RetryPolicy where
  maxAttempts := 5
  coefficient := 2
  initial := .ofMilliseconds 10
  maximum := some (.ofMilliseconds 500)

/-- The standard policy with other waits. -/
def growing (coefficient : UInt32) (initial : Duration) : RetryPolicy :=
  { standard with coefficient := coefficient, initial := initial }

/-- The policy with another longest wait. -/
def withMaximum (policy : RetryPolicy) (maximum : Duration) : RetryPolicy :=
  { policy with maximum := some maximum }

/-- The policy with another number of attempts, of which there is at least one. -/
def withMaxAttempts (policy : RetryPolicy) (attempts : UInt32) : RetryPolicy :=
  { policy with maxAttempts := if attempts = 0 then 1 else attempts }

/-- The wait behind an attempt that failed. Attempts are counted from one. -/
def interval (policy : RetryPolicy) (attempt : Nat) : Duration :=
  let grown := policy.initial.times (saturatingPower policy.coefficient.toNat (attempt - 1))
  match policy.maximum with
  | some maximum => grown.shorter maximum
  | none => grown

/-- Another attempt may follow one that failed. -/
def allowsRetry (policy : RetryPolicy) (attempt : Nat) : Bool :=
  attempt < policy.maxAttempts.toNat

end RetryPolicy

end PipelineRegistry
