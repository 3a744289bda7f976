import PipelineRegistry.Http.Status
import PipelineRegistry.Registry.Error

/-!
# Counters

What the registry counts, each counter with its labels, and how often each has been counted.
-/

namespace PipelineRegistry

/-- What a change does to an entity. -/
inductive MutationKind
  | create
  | update
  | delete
  deriving DecidableEq, Repr

/-- The name of a kind of change. -/
def MutationKind.text : MutationKind → String
  | create => "create"
  | update => "update"
  | delete => "delete"

/-- Something that is counted. -/
inductive Counter
  | mutations (entity : EntityKind) (kind : MutationKind)
  | storeConflicts
  | unknownWriteOutcomes
  | sideEffectFailures (effect : SideEffect)
  | httpRequests (method path : String) (status : Http.Status)
  deriving DecidableEq, Repr

namespace Counter

/-- The name of a counter without its labels. -/
def name : Counter → String
  | mutations _ _ => "registry_mutations_total"
  | storeConflicts => "registry_store_conflicts_total"
  | unknownWriteOutcomes => "registry_unknown_write_outcomes_total"
  | sideEffectFailures _ => "registry_side_effect_failures_total"
  | httpRequests _ _ _ => "http_requests_total"

/-- The labels of a counter, sorted by their names. -/
def labels : Counter → List (String × String)
  | mutations entity kind => [("entity", entity.label), ("op", kind.text)]
  | storeConflicts | unknownWriteOutcomes => []
  | sideEffectFailures effect => [("effect", effect.text)]
  | httpRequests method path status =>
      [("method", method), ("path", path), ("status", Text.Decimal.ofNat status.code)]

/-- A counter as text: its name, and its labels in braces if it has any. -/
def text (counter : Counter) : String :=
  match counter.labels with
  | [] => counter.name
  | labels =>
      counter.name ++ "\x7b" ++
        ",".intercalate (labels.map fun (label, value) => label ++ "=\"" ++ value ++ "\"") ++
        "\x7d"

end Counter

/-- How often each counter has been counted, in the order in which they were first counted. -/
abbrev Counts : Type :=
  List (Counter × Nat)

/-- Counts a counter once more. -/
def Counts.add (counts : Counts) (counter : Counter) : Counts :=
  match counts with
  | [] => [(counter, 1)]
  | (first, count) :: rest =>
      if first = counter then (first, count + 1) :: rest
      else (first, count) :: Counts.add rest counter

/-- How often a counter has been counted. -/
def Counts.of (counts : Counts) (counter : Counter) : Nat :=
  (counts.lookup counter).getD 0

end PipelineRegistry
