import PipelineRegistry.Entity.Json
import PipelineRegistry.Http.Message
import PipelineRegistry.Service
import PipelineRegistry.Url.Basic

/-!
# Calls to services over HTTP

A call becomes a request to an address below the base address of the service, and the response is
read back as the answer to the call. Sending the request in between is left to others.
-/

namespace PipelineRegistry.Client

/-! ## Requests -/

/-- A request to a service. -/
structure ServiceRequest where
  method : Http.Method
  url : Url
  deriving DecidableEq, Repr

/-- The address below a base address. -/
def endpoint (base : Url) (segments : List String) : Except ServiceError Url :=
  match base.extend? segments with
  | some url => .ok url
  | none => .error (.invalidBaseUrl base.text)

/-- The address of something of a pipeline. -/
def pipelineEndpoint (base : Url) (key : PipelineKey) (last : String) :
    Except ServiceError Url :=
  endpoint base ["pipelines", key.namespaceName, key.name, last]

/-- The address of the workers that a selector picks. -/
def workersEndpoint (base : Url) (key : PipelineKey) (selector : String) :
    Except ServiceError Url := do
  return (← pipelineEndpoint base key "workers").appendPair "labelSelector" selector

/-- The request that a call makes. -/
def request (base : Url) : ServiceCall → Except ServiceError ServiceRequest
  | .refreshSources key => do return ⟨.post, ← pipelineEndpoint base key "refresh"⟩
  | .terminateWorkers key selector => do return ⟨.delete, ← workersEndpoint base key selector⟩
  | .workerActive key selector => do return ⟨.get, ← workersEndpoint base key selector⟩
  | .sourceMetrics id => do return ⟨.get, ← endpoint base ["extractsources", id, "metrics"]⟩

/-! ## Responses -/

/-- A response as it arrives. -/
structure ServiceResponse where
  status : Http.Status
  body : List UInt8
  deriving DecidableEq, Repr

/-- The state of workers as a service reports it. -/
structure WorkerStatus where
  active : Bool
  deriving DecidableEq, Repr

/-- The fields of a report on workers. -/
def WorkerStatus.schema : Json.Schema WorkerStatus where
  name := "WorkerStatus"
  defaults := ⟨false⟩
  slots := [
    .required "active" Json.decodeBoolean
      fun value status => { status with active := value }]

/-- Decodes a whole body. -/
def decodeBody {α : Type} (url : Url) (decode : Json.Decoder α) (body : List UInt8) :
    Except ServiceError α :=
  (Json.decodeWhole decode body).mapError fun _ => .undecodable url.text

/-- Reads the body of a successful response. Notices have no answer, so their bodies do not matter.
-/
def readBody (url : Url) (body : List UInt8) :
    (call : ServiceCall) → Except ServiceError call.Answer
  | .refreshSources _ => .ok ()
  | .terminateWorkers _ _ => .ok ()
  | .workerActive _ _ => (decodeBody url WorkerStatus.schema.decode body).map WorkerStatus.active
  | .sourceMetrics _ => decodeBody url (Json.decodeList SourceMetric.decode) body

/-- Reads what came back for a request. Nothing comes back when the request could not be sent or was
not answered. -/
def readResponse (url : Url) (call : ServiceCall) (response? : Option ServiceResponse) :
    Except ServiceError call.Answer :=
  match response? with
  | none => .error (.requestFailed url.text)
  | some response =>
      if response.status.isSuccess then readBody url response.body call
      else .error (.unexpectedStatus url.text response.status)

/-- Makes a call through an exchange of a request for a response. -/
def callThrough (exchange : ServiceRequest → Option ServiceResponse) (base : Url)
    (call : ServiceCall) : Except ServiceError call.Answer := do
  let sent ← request base call
  readResponse sent.url call (exchange sent)

end PipelineRegistry.Client
