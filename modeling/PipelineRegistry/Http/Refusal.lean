import PipelineRegistry.Http.Message
import PipelineRegistry.Json.Problem
import PipelineRegistry.Registry.Error

/-!
# Refusals

Why a request is not answered with what it asks for: it cannot be understood, or the registry
reports an error. The status and the type of the answer depend on the kind of the error only.
-/

namespace PipelineRegistry.Http

open PipelineRegistry.Json (Problem placeText)

/-! ## Malformed requests -/

/-- What is wrong with a request that cannot be understood. -/
inductive Malformation
  | parameter (name : String)
  | cascadeValue
  | cascadeTwice
  | contentType
  | bodyLength
  | bodySyntax
  | bodyShape (place : List Json.Step) (fault : Json.Fault)
  deriving DecidableEq, Repr

namespace Malformation

/-- A place before a message, if the place is not the whole value. -/
def located (place : List Json.Step) (message : String) : String :=
  if place.isEmpty then message else placeText place ++ ": " ++ message

/-- The text of a malformation. -/
def message : Malformation → String
  | parameter name => "Invalid URL: Invalid UTF-8 in `" ++ name ++ "`"
  | cascadeValue =>
      "Failed to deserialize query string: provided string was not `true` or `false`"
  | cascadeTwice => "Failed to deserialize query string: duplicate field `cascade`"
  | contentType => "Expected request with `Content-Type: application/json`"
  | bodyLength => "Failed to buffer the request body: length limit exceeded"
  | bodySyntax => "Failed to parse the request body as JSON"
  | bodyShape place fault =>
      "Failed to deserialize the JSON body into the target type: " ++ located place fault.message

/-- What is wrong with a body that could not be decoded. -/
def ofProblem : Problem → Malformation
  | .malformed => bodySyntax
  | .mismatch place fault => bodyShape place fault

end Malformation

/-! ## Refusals -/

/-- Why a request is refused. -/
inductive Refusal
  | malformed (cause : Malformation)
  | registry (error : RegistryError)
  deriving DecidableEq, Repr

namespace Refusal

/-- The status of errors of the registry by their kind. -/
def statusOf : ErrorKind → Status
  | .validation => ⟨400⟩
  | .notFound => ⟨404⟩
  | .conflict => ⟨409⟩
  | .dependencyFailure => ⟨503⟩
  | .internal => ⟨500⟩

/-- The type that errors of the registry are given in answers, by their kind. -/
def typeOf : ErrorKind → String
  | .validation => "validation_error"
  | .notFound => "not_found"
  | .conflict => "conflict"
  | .dependencyFailure => "dependency_failure"
  | .internal => "internal_error"

/-- The status of the answer. -/
def status : Refusal → Status
  | malformed _ => ⟨400⟩
  | registry error => statusOf error.kind

/-- The type of the refusal in the answer. -/
def type : Refusal → String
  | malformed _ => "malformed_payload"
  | registry error => typeOf error.kind

/-- The text of the refusal in the answer. -/
def detail : Refusal → String
  | malformed cause => cause.message
  | registry error => error.message

/-- The answer to a request that is refused. -/
def response (refusal : Refusal) : Response where
  status := refusal.status
  content := .json (.record [("type", .text refusal.type), ("detail", .text refusal.detail)])

end Refusal

end PipelineRegistry.Http
