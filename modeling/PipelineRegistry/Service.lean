import PipelineRegistry.Entity
import PipelineRegistry.Http.Status

/-!
# Services around the registry

The runtime that executes sources, and the service that measures them. Both are asked over HTTP.
-/

namespace PipelineRegistry

/-- The label that carries the name of a source on its workers. -/
def workerLabel : String :=
  "extractsourcename"

/-- The selector of the workers of a source. -/
def workerSelector (sourceName : String) : String :=
  workerLabel ++ "=" ++ sourceName

/-- What a service is asked to do. -/
inductive ServiceCall
  | refreshSources (key : PipelineKey)
  | terminateWorkers (key : PipelineKey) (selector : String)
  | workerActive (key : PipelineKey) (selector : String)
  | sourceMetrics (id : String)
  deriving DecidableEq, Repr

/-- What a service answers. -/
abbrev ServiceCall.Answer : ServiceCall → Type
  | refreshSources _ => Unit
  | terminateWorkers _ _ => Unit
  | workerActive _ _ => Bool
  | sourceMetrics _ => List SourceMetric

/-- Why a service gave no answer. -/
inductive ServiceError
  | invalidBaseUrl (url : String)
  | requestFailed (url : String)
  | unexpectedStatus (url : String) (status : Http.Status)
  | undecodable (url : String)
  deriving DecidableEq, Repr

/-- The text of an error. -/
def ServiceError.message : ServiceError → String
  | invalidBaseUrl url => url ++ " cannot be used as a base url"
  | requestFailed url => "request to " ++ url ++ " failed"
  | unexpectedStatus url status => url ++ " responded with unexpected status " ++ status.text
  | undecodable url => "failed to decode response from " ++ url

end PipelineRegistry
