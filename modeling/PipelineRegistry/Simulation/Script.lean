import PipelineRegistry.Binary64
import PipelineRegistry.Service
import PipelineRegistry.Store

/-!
# Scripts of surroundings

What the surroundings of the registry do in a simulated run: faults of the store, other writers who
are faster, and services that answer or fail.
-/

namespace PipelineRegistry.Simulation

/-! ## The store -/

/-- The ways in which a store can be told to fail. -/
inductive StoreFailure
  | notFound
  | alreadyExists
  | conflict
  | connection
  | query
  | serialization
  | invalidVersion
  deriving DecidableEq, Repr

namespace StoreFailure

/-- The failures by their names. Any other name stands for a failed query. -/
def ofName : String → StoreFailure
  | "not_found" => notFound
  | "already_exists" => alreadyExists
  | "conflict" => conflict
  | "connection" => connection
  | "serialization" => serialization
  | "invalid_version" => invalidVersion
  | _ => query

/-- The error that a failure shows itself by. -/
def error (failure : StoreFailure) (statement : Statement) (key : PipelineKey) : StoreError :=
  match failure with
  | notFound => .notFound key
  | alreadyExists => .alreadyExists key
  | conflict => .conflict key ⟨"stale"⟩
  | connection => .connection "attempted to acquire a connection on a closed pool"
  | query => .query statement "pool timed out while waiting for an open connection"
  | serialization => .serialization "bad document"
  | invalidVersion => .invalidVersion ⟨"v-one"⟩

end StoreFailure

/-- What another writer does to a pipeline. -/
inductive RivalAction
  | append (function : TransformFunctionRecord)
  | put (document : PipelineDocument)
  | delete
  | recreate
  deriving DecidableEq, Repr

/-- Replaces the document of a pipeline that is there, whatever its version. -/
def overwrite (store : Store) (key : PipelineKey)
    (change : PipelineDocument → PipelineDocument) : Store :=
  match store.find? key with
  | some stored => store.insert key ⟨change stored.document, stored.counter + 1⟩
  | none => store

/-- The store after an action of another writer. -/
def RivalAction.apply (key : PipelineKey) (store : Store) : RivalAction → Store
  | append function =>
      overwrite store key fun document =>
        { document with transformFunctions := document.transformFunctions ++ [function] }
  | put document => overwrite store key fun _ => document
  | delete => store.erase key
  | recreate => store.insert key .initial

/-- What goes wrong with one call to the store: waits before and after it, a failure instead of it,
and actions of another writer right before and right after it. -/
structure Fault where
  delayBefore : Nat := 0
  failure : Option StoreFailure := none
  before : List RivalAction := []
  after : List RivalAction := []
  delayAfter : Nat := 0
  deriving DecidableEq, Repr

/-- The faults of the coming calls of each kind. Calls beyond them go well. -/
structure FaultPlan where
  get : List Fault := []
  update : List Fault := []
  create : List Fault := []
  delete : List Fault := []
  deriving DecidableEq, Repr

/-! ## The services -/

/-- How the runtime behaves: which calls fail, what it says of workers, and how long it takes. -/
structure RuntimeScript where
  failsRefresh : Bool := false
  failsTerminate : Bool := false
  failsWorkerActive : Bool := false
  workerActive : Bool := false
  delay : Nat := 0
  deriving DecidableEq, Repr

/-- How the service of metrics behaves: it always fails, or it has a table of metrics by source. -/
inductive MetricsScript
  | failing
  | table (metrics : List (String × List SourceMetric))
  deriving DecidableEq, Repr

/-- A status that tells of no success, from one of the two addresses of the runtime. -/
def unavailable (url : String) : ServiceError :=
  .unexpectedStatus url ⟨503⟩

/-- What the services answer to a call. -/
def serviceAnswer (runtime : RuntimeScript) (metrics : MetricsScript) :
    (call : ServiceCall) → Except ServiceError call.Answer
  | .refreshSources _ =>
      if runtime.failsRefresh then .error (unavailable "mock://refresh") else .ok ()
  | .terminateWorkers _ _ =>
      if runtime.failsTerminate then .error (unavailable "mock://workers") else .ok ()
  | .workerActive _ _ =>
      if runtime.failsWorkerActive then .error (unavailable "mock://workers")
      else .ok runtime.workerActive
  | .sourceMetrics id =>
      match metrics with
      | .failing => .error (.requestFailed "mock://metrics")
      | .table entries => .ok ((entries.lookup id).getD [])

/-- How long the services take for a call. Metrics are there at once. -/
def serviceDelay (runtime : RuntimeScript) : ServiceCall → Nat
  | .sourceMetrics _ => 0
  | _ => runtime.delay

end PipelineRegistry.Simulation
