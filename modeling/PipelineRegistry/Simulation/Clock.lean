import PipelineRegistry.Call

/-!
# A simulated clock

Time is counted in milliseconds and passes only while something waits. A call ends at the first of
three events: its result is there, its deadline has come, or its request is cancelled. A result that
is there at the deadline still counts, but cancellation goes before everything.
-/

namespace PipelineRegistry.Simulation

/-- The time, and the time at which the present request is cancelled, if it is. -/
structure Clock where
  now : Nat := 0
  cancelledAt : Option Nat := none
  deriving DecidableEq, Repr

namespace Clock

/-- An event has come at a time. -/
def hasCome (event : Option Nat) (time : Nat) : Bool :=
  match event with
  | some moment => moment ≤ time
  | none => false

/-- The present request is cancelled. -/
def isCancelled (clock : Clock) : Bool :=
  hasCome clock.cancelledAt clock.now

/-- A request starts. It is cancelled some time later, if it is at all. -/
def start (clock : Clock) (cancelledAfter : Option Nat) : Clock :=
  { clock with cancelledAt := cancelledAfter.map (clock.now + ·) }

/-- Waits, unless the present request is cancelled meanwhile. -/
def pause (clock : Clock) (duration : Duration) : Clock × Bool :=
  let target := clock.now + duration.ticks
  match clock.cancelledAt with
  | some moment =>
      if moment ≤ target then ({ clock with now := max clock.now moment }, false)
      else ({ clock with now := target }, true)
  | none => ({ clock with now := target }, true)

end Clock

/-! ## Calls under way -/

/-- The events that can end a call before its result is there. -/
structure Limits where
  deadline : Duration
  deadlineAt : Nat
  cancelledAt : Option Nat
  deriving DecidableEq, Repr

namespace Limits

/-- The limits of a call that is made now. -/
def ofBound (clock : Clock) (bound : Bound) : Limits where
  deadline := bound.deadline
  deadlineAt := clock.now + bound.deadline.ticks
  cancelledAt := if bound.heedsCancellation then clock.cancelledAt else none

/-- A call is not even made when its request has been cancelled before. -/
def allowStart (limits : Limits) (clock : Clock) : Bool :=
  !Clock.hasCome limits.cancelledAt clock.now

/-- The call is cut off at the earlier of its two limits. -/
def cut (limits : Limits) : Nat × Interruption :=
  match limits.cancelledAt with
  | some moment =>
      if moment ≤ limits.deadlineAt then (moment, .cancelled)
      else (limits.deadlineAt, .timedOut limits.deadline)
  | none => (limits.deadlineAt, .timedOut limits.deadline)

/-- Waits inside a call. No wait at all always succeeds. -/
def wait (limits : Limits) (clock : Clock) (milliseconds : Nat) :
    Clock × Option Interruption :=
  let target := clock.now + milliseconds
  if milliseconds = 0 then (clock, none)
  else if target ≤ limits.deadlineAt && !Clock.hasCome limits.cancelledAt target then
    ({ clock with now := target }, none)
  else ({ clock with now := limits.cut.1 }, some limits.cut.2)

end Limits

/-! ## One call by itself -/

/-- A call whose result is there after some milliseconds. -/
def call {α : Type} (clock : Clock) (bound : Bound) (milliseconds : Nat) (result : α) :
    Clock × Except Interruption α :=
  let limits := Limits.ofBound clock bound
  if limits.allowStart clock then
    match limits.wait clock milliseconds with
    | (after, none) => (after, .ok result)
    | (after, some cause) => (after, .error cause)
  else (clock, .error .cancelled)

end PipelineRegistry.Simulation
