import PipelineRegistry.Duration

/-!
# Calls with a deadline

A call to something outside the registry can fail in three ways: it answers with an error, it does
not answer before its deadline, or the request that made it is cancelled.
-/

namespace PipelineRegistry

/-- What can end a call before it answers. -/
inductive Interruption
  | timedOut (deadline : Duration)
  | cancelled
  deriving DecidableEq, Repr

/-- The text of an interruption. -/
def Interruption.message : Interruption → String
  | timedOut deadline => "timed out after " ++ deadline.text
  | cancelled => "cancelled by the caller"

/-- Why a call gave no result. -/
inductive CallError (ε : Type)
  | failed (error : ε)
  | interrupted (cause : Interruption)
  deriving DecidableEq, Repr

/-- The text of an error, given the texts of the errors that calls answer with. -/
def CallError.message {ε : Type} (describe : ε → String) : CallError ε → String
  | failed error => describe error
  | interrupted cause => cause.message

/-- How long a call may take, and whether it ends when its request is cancelled. -/
structure Bound where
  deadline : Duration
  heedsCancellation : Bool
  deriving DecidableEq, Repr

end PipelineRegistry
