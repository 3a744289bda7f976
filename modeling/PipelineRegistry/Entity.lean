import PipelineRegistry.Scheme

/-!
# Entities of a pipeline

What clients send and receive: extract sources with their rules and extensions, transform functions,
and the pipeline as a whole. Fields that a client leaves out are empty.
-/

namespace PipelineRegistry

/-- A pipeline is addressed by its namespace and its name. -/
structure PipelineKey where
  namespaceName : String
  name : String
  deriving DecidableEq, Repr

namespace PipelineKey

/-- The two parts of a key with a slash between them. -/
def text (key : PipelineKey) : String :=
  key.namespaceName ++ "/" ++ key.name

end PipelineKey

/-- A place that data is extracted from. -/
structure ExtractSource where
  id : String := ""
  name : String := ""
  path : String := ""
  scheme : Option Scheme := none
  regex : String := ""
  tablename : String := ""
  cronExpression : String := ""
  skipHeaders : Option Int := none
  encoding : String := ""
  transport : String := ""
  deriving DecidableEq, Repr

/-- Where one column of a source is found and how it is transformed. -/
structure ExtractRule where
  id : String := ""
  extractSourceId : String := ""
  columnName : String := ""
  columnPath : String := ""
  columnType : String := ""
  matchValues : String := ""
  transformFunctionName : String := ""
  deriving DecidableEq, Repr

/-- Something that is called when a source has been extracted. -/
structure Extension where
  id : String := ""
  extractSourceId : String := ""
  name : String := ""
  path : String := ""
  deriving DecidableEq, Repr

/-- A named function that rules may apply to a column. -/
structure TransformFunction where
  id : String := ""
  name : String := ""
  source : String := ""
  deriving DecidableEq, Repr

/-- A measured value of a source. -/
structure SourceMetric where
  name : String
  value : Binary64
  deriving DecidableEq, Repr

/-- A source with all that is bound to it. The state of its workers is known for some sources only.
-/
structure ExtractSourceDetail where
  source : ExtractSource
  extractRules : List ExtractRule
  extensions : List Extension
  workerActive : Option Bool
  metrics : List SourceMetric
  deriving DecidableEq, Repr

/-- A whole pipeline at one version. -/
structure Pipeline where
  namespaceName : String
  name : String
  version : String
  extractSources : List ExtractSource
  extractRules : List ExtractRule
  extensions : List Extension
  transformFunctions : List TransformFunction
  deriving DecidableEq, Repr

/-- What is done outside the registry after a change of sources. -/
inductive SideEffect
  | refreshSources
  | terminateWorkers
  deriving DecidableEq, Repr

/-- The name of a side effect. -/
def SideEffect.text : SideEffect → String
  | refreshSources => "refresh_sources"
  | terminateWorkers => "terminate_workers"

/-- A side effect that failed after the change was stored. -/
structure SideEffectError where
  effect : SideEffect
  detail : String
  deriving DecidableEq, Repr

/-- The result of a stored change: the entity it was made to and the side effects that failed. -/
structure MutationOutcome where
  id : String
  sideEffectErrors : List SideEffectError := []
  deriving DecidableEq, Repr

end PipelineRegistry
