import PipelineRegistry.Entity

/-!
# Entities as JSON

Every field of an entity may be left out, and unknown members are skipped. The details of a source
have its own fields and those of the source side by side in one object, so the fields of the source
are gathered first and decoded when the object has ended.
-/

namespace PipelineRegistry

open Json (Slot Schema)

/-- Members that are written only when there is a value. -/
def optionalMember (key : String) (value? : Option Json) : List (String × Json) :=
  (value?.map fun value => (key, value)).toList

/-! ## Extract sources -/

namespace ExtractSource

/-- The fields of a source. -/
def schema : Schema ExtractSource where
  name := "ExtractSource"
  defaults := {}
  slots := [
    .optional "id" Json.decodeText fun value source => { source with id := value },
    .optional "name" Json.decodeText fun value source => { source with name := value },
    .optional "path" Json.decodeText fun value source => { source with path := value },
    .optional "scheme" (Json.decodeOption Scheme.decode)
      fun value source => { source with scheme := value },
    .optional "regex" Json.decodeText fun value source => { source with regex := value },
    .optional "tablename" Json.decodeText fun value source => { source with tablename := value },
    .optional "cronExpression" Json.decodeText
      fun value source => { source with cronExpression := value },
    .optional "skipHeaders" (Json.decodeOption Json.decodeInt64)
      fun value source => { source with skipHeaders := value },
    .optional "encoding" Json.decodeText fun value source => { source with encoding := value },
    .optional "transport" Json.decodeText fun value source => { source with transport := value }
  ]

/-- A source from JSON. -/
def decode : Json.Decoder ExtractSource :=
  schema.decode

/-- The members of a source; scheme and headers are left out when there are none. -/
def members (source : ExtractSource) : List (String × Json) :=
  [("id", .text source.id), ("name", .text source.name), ("path", .text source.path)] ++
    optionalMember "scheme" (source.scheme.map Scheme.encode) ++
    [("regex", .text source.regex), ("tablename", .text source.tablename),
      ("cronExpression", .text source.cronExpression)] ++
    optionalMember "skipHeaders" (source.skipHeaders.map Json.integer) ++
    [("encoding", .text source.encoding), ("transport", .text source.transport)]

/-- A source as JSON. -/
def encode (source : ExtractSource) : Json :=
  .record source.members

end ExtractSource

/-! ## Rules, extensions and functions -/

namespace ExtractRule

/-- The fields of a rule. -/
def schema : Schema ExtractRule where
  name := "ExtractRule"
  defaults := {}
  slots := [
    .optional "id" Json.decodeText fun value rule => { rule with id := value },
    .optional "extractSourceId" Json.decodeText
      fun value rule => { rule with extractSourceId := value },
    .optional "columnName" Json.decodeText fun value rule => { rule with columnName := value },
    .optional "columnPath" Json.decodeText fun value rule => { rule with columnPath := value },
    .optional "columnType" Json.decodeText fun value rule => { rule with columnType := value },
    .optional "matchValues" Json.decodeText fun value rule => { rule with matchValues := value },
    .optional "transformFunctionName" Json.decodeText
      fun value rule => { rule with transformFunctionName := value }
  ]

/-- A rule from JSON. -/
def decode : Json.Decoder ExtractRule :=
  schema.decode

/-- A rule as JSON. -/
def encode (rule : ExtractRule) : Json :=
  .record [("id", .text rule.id), ("extractSourceId", .text rule.extractSourceId),
    ("columnName", .text rule.columnName), ("columnPath", .text rule.columnPath),
    ("columnType", .text rule.columnType), ("matchValues", .text rule.matchValues),
    ("transformFunctionName", .text rule.transformFunctionName)]

end ExtractRule

namespace Extension

/-- The fields of an extension. -/
def schema : Schema Extension where
  name := "Extension"
  defaults := {}
  slots := [
    .optional "id" Json.decodeText fun value extension => { extension with id := value },
    .optional "extractSourceId" Json.decodeText
      fun value extension => { extension with extractSourceId := value },
    .optional "name" Json.decodeText fun value extension => { extension with name := value },
    .optional "path" Json.decodeText fun value extension => { extension with path := value }
  ]

/-- An extension from JSON. -/
def decode : Json.Decoder Extension :=
  schema.decode

/-- An extension as JSON. -/
def encode (extension : Extension) : Json :=
  .record [("id", .text extension.id), ("extractSourceId", .text extension.extractSourceId),
    ("name", .text extension.name), ("path", .text extension.path)]

end Extension

namespace TransformFunction

/-- The fields of a transform function. -/
def schema : Schema TransformFunction where
  name := "TransformFunction"
  defaults := {}
  slots := [
    .optional "id" Json.decodeText fun value function => { function with id := value },
    .optional "name" Json.decodeText fun value function => { function with name := value },
    .optional "source" Json.decodeText fun value function => { function with source := value }
  ]

/-- A transform function from JSON. -/
def decode : Json.Decoder TransformFunction :=
  schema.decode

/-- A transform function as JSON. -/
def encode (function : TransformFunction) : Json :=
  .record [("id", .text function.id), ("name", .text function.name),
    ("source", .text function.source)]

end TransformFunction

/-! ## Metrics -/

namespace SourceMetric

/-- The fields of a metric. -/
def schema : Schema SourceMetric where
  name := "SourceMetric"
  defaults := ⟨"", ⟨0⟩⟩
  slots := [
    .required "name" Json.decodeText fun value metric => { metric with name := value },
    .required "value" Json.decodeFloat fun value metric => { metric with value := value }
  ]

/-- A metric from JSON. -/
def decode : Json.Decoder SourceMetric :=
  schema.decode

/-- A metric as JSON. A value that is no finite number is `null`. -/
def encode (metric : SourceMetric) : Json :=
  .record [("name", .text metric.name),
    ("value", if metric.value.isFinite then .float metric.value else .null)]

end SourceMetric

/-! ## Details of a source -/

namespace ExtractSourceDetail

/-- The fields that a detail has beside those of its source. -/
def schema : Schema ExtractSourceDetail where
  name := "ExtractSourceDetail"
  defaults := ⟨{}, [], [], none, []⟩
  slots := [
    .required "extractRules" (Json.decodeList ExtractRule.decode)
      fun value detail => { detail with extractRules := value },
    .required "extensions" (Json.decodeList Extension.decode)
      fun value detail => { detail with extensions := value },
    .optional "workerActive" (Json.decodeOption Json.decodeBoolean)
      fun value detail => { detail with workerActive := value },
    .required "metrics" (Json.decodeList SourceMetric.decode)
      fun value detail => { detail with metrics := value }
  ]

/-- The members are checked in the order of the text. Those that are no field of the detail itself
are kept for the source, so they must be readable and not too deep. -/
def scan (seen : List String) : List (Option String × Json) → Except Json.Problem Unit
  | [] => .ok ()
  | (none, _) :: _ => .error .malformed
  | (some key, value) :: rest =>
      match schema.slot? key with
      | some slot =>
          if seen.contains key then .error (.mismatch [] (.duplicateField key))
          else do
            let _ ← Json.inside (.member key) (slot.fill value)
            scan (key :: seen) rest
      | none =>
          if value.isKeepable (Json.depthLimit - 1) then scan seen rest else .error .malformed

/-- The members that the source takes among those that the detail does not take itself. -/
def sourceMembers (members : List (Option String × Json)) : List (Option String × Json) :=
  members.filter fun member =>
    match member.1 with
    | some key => (schema.slot? key).isNone && (ExtractSource.schema.slot? key).isSome
    | none => false

/-- A detail from JSON, which must be an object. -/
def decode : Json.Decoder ExtractSourceDetail
  | .object members ended => do
      scan [] members
      if !ended then throw .malformed
      let detail ← Schema.build (Schema.member? members) schema.slots schema.defaults
      let source ← ExtractSource.schema.decodeMembers (sourceMembers members) true
      return { detail with source := source }
  | json => Json.unexpected (.record schema.name) json

/-- A detail as JSON; the state of workers is left out when it is not known. -/
def encode (detail : ExtractSourceDetail) : Json :=
  .record <| detail.source.members ++
    [("extractRules", .list (detail.extractRules.map ExtractRule.encode)),
      ("extensions", .list (detail.extensions.map Extension.encode))] ++
    optionalMember "workerActive" (detail.workerActive.map Json.boolean) ++
    [("metrics", .list (detail.metrics.map SourceMetric.encode))]

end ExtractSourceDetail

/-! ## Pipelines -/

namespace Pipeline

/-- The fields of a pipeline. -/
def schema : Schema Pipeline where
  name := "Pipeline"
  defaults := ⟨"", "", "", [], [], [], []⟩
  slots := [
    .required "namespace" Json.decodeText
      fun value pipeline => { pipeline with namespaceName := value },
    .required "name" Json.decodeText fun value pipeline => { pipeline with name := value },
    .required "version" Json.decodeText fun value pipeline => { pipeline with version := value },
    .required "extractSources" (Json.decodeList ExtractSource.decode)
      fun value pipeline => { pipeline with extractSources := value },
    .required "extractRules" (Json.decodeList ExtractRule.decode)
      fun value pipeline => { pipeline with extractRules := value },
    .required "extensions" (Json.decodeList Extension.decode)
      fun value pipeline => { pipeline with extensions := value },
    .required "transformFunctions" (Json.decodeList TransformFunction.decode)
      fun value pipeline => { pipeline with transformFunctions := value }
  ]

/-- A pipeline from JSON. -/
def decode : Json.Decoder Pipeline :=
  schema.decode

/-- A pipeline as JSON. -/
def encode (pipeline : Pipeline) : Json :=
  .record [("namespace", .text pipeline.namespaceName), ("name", .text pipeline.name),
    ("version", .text pipeline.version),
    ("extractSources", .list (pipeline.extractSources.map ExtractSource.encode)),
    ("extractRules", .list (pipeline.extractRules.map ExtractRule.encode)),
    ("extensions", .list (pipeline.extensions.map Extension.encode)),
    ("transformFunctions", .list (pipeline.transformFunctions.map TransformFunction.encode))]

end Pipeline

/-! ## Outcomes -/

/-- The side effects by their names. -/
def SideEffect.variants : List (String × SideEffect) :=
  [("refresh_sources", .refreshSources), ("terminate_workers", .terminateWorkers)]

namespace SideEffectError

/-- The fields of a failed side effect. -/
def schema : Schema SideEffectError where
  name := "SideEffectError"
  defaults := ⟨.refreshSources, ""⟩
  slots := [
    .required "effect" (Json.decodeVariant SideEffect.variants)
      fun value failure => { failure with effect := value },
    .required "detail" Json.decodeText fun value failure => { failure with detail := value }
  ]

/-- A failed side effect from JSON. -/
def decode : Json.Decoder SideEffectError :=
  schema.decode

/-- A failed side effect as JSON. -/
def encode (failure : SideEffectError) : Json :=
  .record [("effect", .text failure.effect.text), ("detail", .text failure.detail)]

end SideEffectError

namespace MutationOutcome

/-- The fields of an outcome. -/
def schema : Schema MutationOutcome where
  name := "MutationOutcome"
  defaults := ⟨"", []⟩
  slots := [
    .required "id" Json.decodeText fun value outcome => { outcome with id := value },
    .optional "sideEffectErrors" (Json.decodeList SideEffectError.decode)
      fun value outcome => { outcome with sideEffectErrors := value }
  ]

/-- An outcome from JSON. -/
def decode : Json.Decoder MutationOutcome :=
  schema.decode

/-- An outcome as JSON; side effects are left out when none failed. -/
def encode (outcome : MutationOutcome) : Json :=
  .record <| [("id", .text outcome.id)] ++
    if outcome.sideEffectErrors.isEmpty then []
    else [("sideEffectErrors", .list (outcome.sideEffectErrors.map SideEffectError.encode))]

end MutationOutcome

end PipelineRegistry
