import PipelineRegistry.Call
import PipelineRegistry.ColumnPath
import PipelineRegistry.Store

/-!
# Errors of the registry

An error is kept as its cause. Its kind, which is what clients act on, and its text are functions of
the cause.
-/

namespace PipelineRegistry

open PipelineRegistry.Text

/-! ## Names of entities -/

/-- What an error can say that it was not found. -/
inductive EntityKind
  | pipeline
  | extractSource
  | extractRule
  | extension
  | transformFunction
  deriving DecidableEq, Repr

/-- The name of a kind of entity. -/
def EntityKind.text : EntityKind → String
  | pipeline => "pipeline"
  | extractSource => "extract source"
  | extractRule => "extract rule"
  | extension => "extension"
  | transformFunction => "transform function"

/-- The name of a kind of entity where counters are labelled. -/
def EntityKind.label : EntityKind → String
  | pipeline => "pipeline"
  | extractSource => "extract_source"
  | extractRule => "extract_rule"
  | extension => "extension"
  | transformFunction => "transform_function"

/-! ## Causes -/

/-- What a payload violates. -/
inductive Violation
  | missingField (name : String)
  | negativeSkipHeaders (count : Int)
  | pathTaken (path : String)
  | columnPath (error : ColumnPath.PathError)
  | unknownTransformFunction (name : String)
  deriving DecidableEq, Repr

/-- The text of a violation. -/
def Violation.message : Violation → String
  | missingField name => name ++ " is required"
  | negativeSkipHeaders count =>
      "skipHeaders must not be negative, got " ++ Decimal.ofInt count
  | pathTaken path => "path already taken: " ++ path
  | columnPath error => error.message
  | unknownTransformFunction name => "transform function " ++ name ++ " does not exist"

/-- Why the registry did not do what it was asked to do. -/
inductive RegistryError
  | invalid (violation : Violation)
  | notFound (kind : EntityKind) (id : String)
  | refused (error : StoreError)
  | keptChanging (key : PipelineKey) (attempts : Nat)
  | unavailable (error : StoreError)
  | interrupted (cause : Interruption)
  | unknownOutcome (cause : Interruption)
  | corrupt (error : StoreError)
  deriving DecidableEq, Repr

/-- What clients tell errors apart by. -/
inductive ErrorKind
  | validation
  | notFound
  | conflict
  | dependencyFailure
  | internal
  deriving DecidableEq, Repr

namespace RegistryError

/-- The kind of an error. -/
def kind : RegistryError → ErrorKind
  | invalid _ => .validation
  | notFound _ _ => .notFound
  | refused _ | keptChanging _ _ => .conflict
  | unavailable _ | interrupted _ | unknownOutcome _ => .dependencyFailure
  | corrupt _ => .internal

/-- The text of an error. -/
def message : RegistryError → String
  | invalid violation => violation.message
  | notFound kind id => kind.text ++ " " ++ id ++ " not found"
  | refused error | unavailable error | corrupt error => error.message
  | keptChanging key attempts =>
      "pipeline " ++ key.text ++ " kept changing, gave up after " ++ Decimal.ofNat attempts ++
        " attempts"
  | interrupted cause => "store call " ++ cause.message
  | unknownOutcome cause =>
      "store call " ++ cause.message ++ ", the change may or may not have been applied"

/-- The error for one of the store. -/
def ofStore : StoreError → RegistryError
  | .notFound key => notFound .pipeline key.text
  | .alreadyExists key => refused (.alreadyExists key)
  | .conflict key expected => refused (.conflict key expected)
  | .connection reason => unavailable (.connection reason)
  | .query statement reason => unavailable (.query statement reason)
  | .serialization reason => corrupt (.serialization reason)
  | .invalidVersion version => corrupt (.invalidVersion version)

/-- The error for a call to the store without a result. -/
def ofCall : CallError StoreError → RegistryError
  | .failed error => ofStore error
  | .interrupted cause => interrupted cause

end RegistryError

end PipelineRegistry
