import PipelineRegistry.Identifier
import PipelineRegistry.Registry.Program
import PipelineRegistry.Simulation.Clock
import PipelineRegistry.Simulation.Script

/-!
# Simulated runs

A world is all that surrounds a program: a clock, a store, services, and what has been counted.
`answer` says how the world answers one request, and `run` runs a whole program in it.
-/

namespace PipelineRegistry.Simulation

/-! ## Worlds -/

/-- The surroundings of a program. The calls to the runtime that have been made are listed with the
last one first. -/
structure World where
  clock : Clock := {}
  store : Store := {}
  faults : FaultPlan := {}
  runtime : RuntimeScript := {}
  metrics : MetricsScript := .table []
  made : List ServiceCall := []
  identifiers : List Identifier := []
  counts : Counts := []
  deriving Repr

/-- Something done in a world that can be cut off. What was done before the cut stays done. -/
abbrev Act (α : Type) : Type :=
  ExceptT Interruption (StateM World) α

/-- Waits inside a call with the given limits. -/
def elapse (limits : Limits) (milliseconds : Nat) : Act Unit := do
  let world ← get
  let (clock, cause?) := limits.wait world.clock milliseconds
  set { world with clock := clock }
  match cause? with
  | none => return ()
  | some cause => throw cause

/-- Makes a call within its bound, if its request has not been cancelled before. -/
def bounded {α ε : Type} (bound : Bound) (act : Limits → Act (Except ε α)) :
    StateM World (Except (CallError ε) α) := do
  let world ← get
  let limits := Limits.ofBound world.clock bound
  if limits.allowStart world.clock then
    match ← (act limits).run with
    | .ok (.ok result) => return .ok result
    | .ok (.error error) => return .error (.failed error)
    | .error cause => return .error (.interrupted cause)
  else return .error (.interrupted .cancelled)

/-! ## Calls to the store -/

/-- The kind of statement behind a call. -/
def statement : StoreCall → Statement
  | .get _ => .select
  | .update _ _ _ => .update
  | .create _ => .insert
  | .delete _ => .delete

/-- The pipeline that a call is about. -/
def callKey : StoreCall → PipelineKey
  | .get key | .update key _ _ | .create key | .delete key => key

/-- What the store does on a call and what it answers. -/
def perform (store : Store) : (call : StoreCall) → Store × Except StoreError call.Answer
  | .get key => (store, store.get key)
  | .update key document expected =>
      match store.update key document expected with
      | .ok (changed, version) => (changed, .ok version)
      | .error error => (store, .error error)
  | .create key =>
      match store.create key with
      | .ok (changed, version) => (changed, .ok version)
      | .error error => (store, .error error)
  | .delete key =>
      match store.delete key with
      | .ok changed => (changed, .ok ())
      | .error error => (store, .error error)

/-- The fault of the next call of a kind, and the faults behind it. -/
def FaultPlan.next (plan : FaultPlan) (call : StoreCall) : Fault × FaultPlan :=
  match call with
  | .get _ => (plan.get.headD {}, { plan with get := plan.get.tail })
  | .update _ _ _ => (plan.update.headD {}, { plan with update := plan.update.tail })
  | .create _ => (plan.create.headD {}, { plan with create := plan.create.tail })
  | .delete _ => (plan.delete.headD {}, { plan with delete := plan.delete.tail })

/-- Lets another writer act. -/
def interfere (key : PipelineKey) (actions : List RivalAction) : Act Unit :=
  modify fun world =>
    { world with store := actions.foldl (RivalAction.apply key) world.store }

/-- A call to the store with the fault that is planned for it. -/
def storeCall (call : StoreCall) (limits : Limits) :
    Act (Except StoreError call.Answer) := do
  let (fault, later) := (← get).faults.next call
  modify fun world => { world with faults := later }
  elapse limits fault.delayBefore
  match fault.failure with
  | some failure => return .error (failure.error (statement call) (callKey call))
  | none =>
      interfere (callKey call) fault.before
      let (store, result) := perform (← get).store call
      modify fun world => { world with store := store }
      interfere (callKey call) fault.after
      elapse limits fault.delayAfter
      return result

/-! ## Calls to services -/

/-- A call that belongs to the runtime is listed when it is made. -/
def isListed : ServiceCall → Bool
  | .sourceMetrics _ => false
  | _ => true

/-- A call to a service. -/
def serviceCall (call : ServiceCall) (limits : Limits) :
    Act (Except ServiceError call.Answer) := do
  let world ← get
  if isListed call then set { world with made := call :: world.made }
  elapse limits (serviceDelay world.runtime call)
  return serviceAnswer world.runtime world.metrics call

/-! ## Requests and programs -/

/-- The time of day, in milliseconds, at which the clock of a run starts. -/
def startOfTime : Nat :=
  1700000000000

/-- A new identifier behind all others. -/
def identify (world : World) : Identifier :=
  match world.identifiers with
  | [] => .first (startOfTime + world.clock.now)
  | last :: _ => last.next (startOfTime + world.clock.now)

/-- How the world answers a request. -/
def answer : (request : Request) → StateM World request.Answer
  | .store bound call => bounded bound (storeCall call)
  | .service bound call => bounded bound (serviceCall call)
  | .pause duration => fun world =>
      let (clock, finished) := world.clock.pause duration
      (finished, { world with clock := clock })
  | .freshId => fun world =>
      let identifier := identify world
      (identifier.text, { world with identifiers := identifier :: world.identifiers })
  | .count counter => fun world =>
      ((), { world with counts := world.counts.add counter })

/-- Runs a program in a world. -/
def run {α : Type} : Program α → StateM World α
  | .done result => pure result
  | .ask request next => do run (next (← answer request))

/-- Starts a request in a world: its own faults, its own cancellation, and no calls made yet. -/
def World.begin (world : World) (cancelledAfter : Option Nat) (faults : FaultPlan) : World :=
  { world with
    clock := world.clock.start cancelledAfter
    faults := faults
    made := [] }

/-- The calls to the runtime that have been made, the first one first. -/
def World.calls (world : World) : List ServiceCall :=
  world.made.reverse

end PipelineRegistry.Simulation
