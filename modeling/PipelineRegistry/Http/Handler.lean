import PipelineRegistry.Entity.Json
import PipelineRegistry.Http.MediaType
import PipelineRegistry.Http.Refusal
import PipelineRegistry.Http.Route
import PipelineRegistry.Registry.Functions
import PipelineRegistry.Registry.Pipelines
import PipelineRegistry.Registry.Rules
import PipelineRegistry.Registry.Sources
import PipelineRegistry.Text.Form

/-!
# Serving requests

A request is answered by the operation that its route and its method stand for. The parameters of
the path are read first, then the query or the body, and only then is the registry asked. `serve`
also counts the request.
-/

namespace PipelineRegistry.Http

open PipelineRegistry.Text

/-- How requests are served: the settings of the registry, and the length of the longest body. -/
structure ServerSettings where
  registry : RegistrySettings
  bodyLimit : Nat
  deriving DecidableEq, Repr

/-- A program that answers a request or refuses it. -/
abbrev Handler (α : Type) : Type :=
  ExceptT Refusal Program α

namespace Handler

/-- Refuses a request that cannot be understood. -/
def ofExcept {α : Type} (result : Except Malformation α) : Handler α :=
  ExceptT.mk (Program.done (result.mapError Refusal.malformed))

/-- Asks the registry. -/
def ofOperation {α : Type} (operation : Operation α) : Handler α :=
  ExceptT.mk do return (← operation.run).mapError Refusal.registry

end Handler

/-! ## Reading requests -/

/-- A parameter of a path. -/
def readParameter (name : String) (encoded : List Char) : Except Malformation String :=
  match Percent.decode? encoded with
  | some value => .ok value
  | none => .error (.parameter name)

/-- The pipeline that a path addresses. -/
def readKey (encoded : EncodedKey) : Except Malformation PipelineKey := do
  let namespaceName ← readParameter "namespace" encoded.namespaceName
  let name ← readParameter "name" encoded.name
  return ⟨namespaceName, name⟩

/-- A header says that the body is JSON. -/
def namesJson (header : Option String) : Bool :=
  match header.bind MediaType.ofText? with
  | some mediaType => mediaType.isJson
  | none => false

/-- The entity in the body of a request. What follows the first value of the body is ignored. -/
def readBody {α : Type} (decode : Json.Decoder α) (settings : ServerSettings)
    (request : Request) : Except Malformation α :=
  if !namesJson request.contentType then .error .contentType
  else if settings.bodyLimit < request.body.length then .error .bodyLength
  else (Json.decodeFirst decode request.body).mapError Malformation.ofProblem

/-- Whether a removal is to cascade, from the pairs of a query. Other keys do not matter. -/
def readCascade (found? : Option Bool) :
    List (List UInt8 × List UInt8) → Except Malformation Bool
  | [] => .ok (found?.getD false)
  | (key, value) :: rest =>
      if key = Percent.utf8 "cascade".toList then
        if found?.isSome then .error .cascadeTwice
        else if value = Percent.utf8 "true".toList then readCascade (some true) rest
        else if value = Percent.utf8 "false".toList then readCascade (some false) rest
        else .error .cascadeValue
      else readCascade found? rest

/-- What a removal of a source does to what is bound to it. -/
def readDeleteMode (target : Target) : Except Malformation Registry.DeleteMode := do
  return if ← readCascade none (Form.pairs target.query) then .cascade else .orphan

/-! ## Pipelines -/

/-- The pipeline that a path addresses, and the settings it is served under. -/
def readContext (settings : ServerSettings) (key : EncodedKey) : Handler Context := do
  return ⟨settings.registry, ← Handler.ofExcept (readKey key)⟩

/-- An answer with JSON. -/
def answerJson {α : Type} (status : Status) (encode : α → Json) (operation : Operation α) :
    Handler Response := do
  return ⟨status, .json (encode (← Handler.ofOperation operation))⟩

/-- What is done with a pipeline as a whole. -/
def servePipeline (settings : ServerSettings) (key : EncodedKey) :
    Method → Option (Handler Response)
  | .put => some do
      let context ← readContext settings key
      answerJson ⟨201⟩ Pipeline.encode (Registry.createPipeline context)
  | .get => some do
      let context ← readContext settings key
      answerJson ⟨200⟩ Pipeline.encode (Registry.getPipeline context)
  | .delete => some do
      let context ← readContext settings key
      Handler.ofOperation (Registry.deletePipeline context)
      return ⟨⟨204⟩, .empty⟩
  | _ => none

/-! ## Collections -/

/-- What can be done with the entities of a collection. `remove` reads the query before it asks the
registry. -/
structure Resource where
  Entity : Type
  decode : Json.Decoder Entity
  create : Context → Entity → Operation MutationOutcome
  update : Context → String → Entity → Operation MutationOutcome
  remove : Target → Except Malformation (Context → String → Operation MutationOutcome)
  get : Context → String → Operation Json
  list : Context → Operation (List Json)

/-- An operation whose result is given as JSON. -/
def encoded {α : Type} (encode : α → Json) (operation : Operation α) : Operation Json := do
  return encode (← operation)

/-- An operation whose results are given as JSON. -/
def encodedList {α : Type} (encode : α → Json) (operation : Operation (List α)) :
    Operation (List Json) := do
  return (← operation).map encode

/-- What can be done with each collection. -/
def resource : Collection → Resource
  | .extractSources => {
      Entity := ExtractSource
      decode := ExtractSource.decode
      create := Registry.createSource
      update := Registry.updateSource
      remove := fun target => do
        let mode ← readDeleteMode target
        return fun context id => Registry.deleteSource context id mode
      get := fun context id => encoded ExtractSourceDetail.encode (Registry.getSource context id)
      list := fun context => encodedList ExtractSource.encode (Registry.listSources context) }
  | .extractRules => {
      Entity := ExtractRule
      decode := ExtractRule.decode
      create := Registry.createRule
      update := Registry.updateRule
      remove := fun _ => .ok Registry.deleteRule
      get := fun context id => encoded ExtractRule.encode (Registry.getRule context id)
      list := fun context => encodedList ExtractRule.encode (Registry.listRules context) }
  | .extensions => {
      Entity := Extension
      decode := Extension.decode
      create := Registry.createExtension
      update := Registry.updateExtension
      remove := fun _ => .ok Registry.deleteExtension
      get := fun context id => encoded Extension.encode (Registry.getExtension context id)
      list := fun context => encodedList Extension.encode (Registry.listExtensions context) }
  | .transformFunctions => {
      Entity := TransformFunction
      decode := TransformFunction.decode
      create := Registry.createFunction
      update := Registry.updateFunction
      remove := fun _ => .ok Registry.deleteFunction
      get := fun context id => encoded TransformFunction.encode (Registry.getFunction context id)
      list := fun context =>
        encodedList TransformFunction.encode (Registry.listFunctions context) }

/-- What is done with a collection as a whole. -/
def serveCollection (settings : ServerSettings) (request : Request) (key : EncodedKey)
    (resource : Resource) : Method → Option (Handler Response)
  | .post => some do
      let context ← readContext settings key
      let entity ← Handler.ofExcept (readBody resource.decode settings request)
      answerJson ⟨201⟩ MutationOutcome.encode (resource.create context entity)
  | .get => some do
      let context ← readContext settings key
      answerJson ⟨200⟩ Json.list (resource.list context)
  | _ => none

/-- The pipeline and the entity that a path addresses. -/
def readEntityPath (settings : ServerSettings) (key : EncodedKey) (id : List Char) :
    Handler (Context × String) := do
  let context ← readContext settings key
  return (context, ← Handler.ofExcept (readParameter "id" id))

/-- What is done with one entity of a collection. -/
def serveEntity (settings : ServerSettings) (request : Request) (key : EncodedKey)
    (id : List Char) (resource : Resource) : Method → Option (Handler Response)
  | .get => some do
      let (context, id) ← readEntityPath settings key id
      answerJson ⟨200⟩ (fun json => json) (resource.get context id)
  | .put => some do
      let (context, id) ← readEntityPath settings key id
      let entity ← Handler.ofExcept (readBody resource.decode settings request)
      answerJson ⟨200⟩ MutationOutcome.encode (resource.update context id entity)
  | .delete => some do
      let (context, id) ← readEntityPath settings key id
      let remove ← Handler.ofExcept (resource.remove request.target)
      answerJson ⟨200⟩ MutationOutcome.encode (remove context id)
  | _ => none

/-! ## All requests -/

/-- What is served where nothing but a greeting is. -/
def greeting : String :=
  "pipeline registry"

/-- What is done on a route for a method, if the route knows it. -/
def handler? (settings : ServerSettings) (request : Request) (route : Route)
    (method : Method) : Option (Handler Response) :=
  match route with
  | .greeting _ => if method = .get then some (return ⟨⟨200⟩, .text greeting⟩) else none
  | .pipeline key => servePipeline settings key method
  | .collection key which => serveCollection settings request key (resource which) method
  | .entity key which id => serveEntity settings request key id (resource which) method

/-- The answer of a handler; a refusal is an answer too. -/
def Handler.respond (handler : Handler Response) : Program Response := do
  match ← handler.run with
  | .ok response => return response
  | .error refusal => return refusal.response

/-- Answers a request on a route. A request for the head alone is served like one for all of it, and
the content is left out. -/
def answerOn (settings : ServerSettings) (request : Request) (route : Route) :
    Program Response :=
  let method := if request.method = .head then .get else request.method
  match handler? settings request route method with
  | none => return ⟨⟨405⟩, .empty⟩
  | some handler => do
      let response ← handler.respond
      return if request.method = .head then response.withoutContent else response

/-- Answers a request. Without a route there is nothing to be found. -/
def answer (settings : ServerSettings) (request : Request) : Program Response :=
  match Route.ofPath? request.target.path with
  | none => return ⟨⟨404⟩, .empty⟩
  | some route => answerOn settings request route

/-- How the path of a request is counted. -/
def pathLabel (path : List Char) : String :=
  match Route.ofPath? path with
  | some route => route.template
  | none => "unmatched"

/-- Answers a request and counts it by its method, its route and the status of the answer. -/
def serve (settings : ServerSettings) (request : Request) : Program Response := do
  let response ← answer settings request
  let label := pathLabel request.target.path
  Program.request (.count (.httpRequests request.method.name label response.status))
  return response

end PipelineRegistry.Http
