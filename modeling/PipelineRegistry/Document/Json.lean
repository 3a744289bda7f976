import PipelineRegistry.Document
import PipelineRegistry.Json.Decode

/-!
# Stored documents as JSON

The stored form has names of its own. A record must have its id and, where it is bound to a source,
the id of the source; a source must also have a name and a path. Everything else may be missing.
-/

namespace PipelineRegistry

open Json (Slot Schema)

/-! ## Records -/

namespace ExtractSourceRecord

/-- The fields of a stored source. -/
def schema : Schema ExtractSourceRecord where
  name := "ExtractSourceRecord"
  defaults := {}
  slots := [
    .required "Id" Json.decodeText fun value record => { record with id := value },
    .required "Name" Json.decodeText fun value record => { record with name := value },
    .required "Path" Json.decodeText fun value record => { record with path := value },
    .optional "Scheme" Json.decodeText fun value record => { record with scheme := value },
    .optional "Regex" Json.decodeText fun value record => { record with regex := value },
    .optional "Tablename" Json.decodeText fun value record => { record with tablename := value },
    .optional "Cronexpression" Json.decodeText
      fun value record => { record with cronExpression := value },
    .optional "Skipheaders" (Json.decodeOption Json.decodeInt64)
      fun value record => { record with skipHeaders := value },
    .optional "Encoding" Json.decodeText fun value record => { record with encoding := value },
    .optional "Transport" Json.decodeText fun value record => { record with transport := value }
  ]

/-- A stored source from JSON. -/
def decode : Json.Decoder ExtractSourceRecord :=
  schema.decode

/-- A stored source as JSON; headers are left out when there are none. -/
def encode (record : ExtractSourceRecord) : Json :=
  .record <|
    [("Id", .text record.id), ("Name", .text record.name), ("Path", .text record.path),
      ("Scheme", .text record.scheme), ("Regex", .text record.regex),
      ("Tablename", .text record.tablename), ("Cronexpression", .text record.cronExpression)] ++
    (record.skipHeaders.map fun count => ("Skipheaders", Json.integer count)).toList ++
    [("Encoding", .text record.encoding), ("Transport", .text record.transport)]

end ExtractSourceRecord

namespace ExtractRuleRecord

/-- The fields of a stored rule. -/
def schema : Schema ExtractRuleRecord where
  name := "ExtractRuleRecord"
  defaults := {}
  slots := [
    .required "Id" Json.decodeText fun value record => { record with id := value },
    .required "Extractsourceid" Json.decodeText
      fun value record => { record with extractSourceId := value },
    .optional "Columnname" Json.decodeText fun value record => { record with columnName := value },
    .optional "Columnpath" Json.decodeText fun value record => { record with columnPath := value },
    .optional "Columntype" Json.decodeText fun value record => { record with columnType := value },
    .optional "Matchvalues" Json.decodeText
      fun value record => { record with matchValues := value },
    .optional "Transformfunctionname" Json.decodeText
      fun value record => { record with transformFunctionName := value }
  ]

/-- A stored rule from JSON. -/
def decode : Json.Decoder ExtractRuleRecord :=
  schema.decode

/-- A stored rule as JSON. -/
def encode (record : ExtractRuleRecord) : Json :=
  .record [("Id", .text record.id), ("Extractsourceid", .text record.extractSourceId),
    ("Columnname", .text record.columnName), ("Columnpath", .text record.columnPath),
    ("Columntype", .text record.columnType), ("Matchvalues", .text record.matchValues),
    ("Transformfunctionname", .text record.transformFunctionName)]

end ExtractRuleRecord

namespace ExtensionRecord

/-- The fields of a stored extension. -/
def schema : Schema ExtensionRecord where
  name := "ExtensionRecord"
  defaults := {}
  slots := [
    .required "Id" Json.decodeText fun value record => { record with id := value },
    .required "Extractsourceid" Json.decodeText
      fun value record => { record with extractSourceId := value },
    .optional "Name" Json.decodeText fun value record => { record with name := value },
    .optional "Path" Json.decodeText fun value record => { record with path := value }
  ]

/-- A stored extension from JSON. -/
def decode : Json.Decoder ExtensionRecord :=
  schema.decode

/-- A stored extension as JSON. -/
def encode (record : ExtensionRecord) : Json :=
  .record [("Id", .text record.id), ("Extractsourceid", .text record.extractSourceId),
    ("Name", .text record.name), ("Path", .text record.path)]

end ExtensionRecord

namespace TransformFunctionRecord

/-- The fields of a stored transform function. -/
def schema : Schema TransformFunctionRecord where
  name := "TransformFunctionRecord"
  defaults := {}
  slots := [
    .required "Id" Json.decodeText fun value record => { record with id := value },
    .optional "Name" Json.decodeText fun value record => { record with name := value },
    .optional "Source" Json.decodeText fun value record => { record with source := value }
  ]

/-- A stored transform function from JSON. -/
def decode : Json.Decoder TransformFunctionRecord :=
  schema.decode

/-- A stored transform function as JSON. -/
def encode (record : TransformFunctionRecord) : Json :=
  .record [("Id", .text record.id), ("Name", .text record.name), ("Source", .text record.source)]

end TransformFunctionRecord

/-! ## Documents -/

namespace PipelineDocument

/-- The collections of a document. -/
def schema : Schema PipelineDocument where
  name := "PipelineDocument"
  defaults := {}
  slots := [
    .optional "Extractsources" (Json.decodeList ExtractSourceRecord.decode)
      fun value document => { document with extractSources := value },
    .optional "Extractrules" (Json.decodeList ExtractRuleRecord.decode)
      fun value document => { document with extractRules := value },
    .optional "Extensions" (Json.decodeList ExtensionRecord.decode)
      fun value document => { document with extensions := value },
    .optional "Transformfunctions" (Json.decodeList TransformFunctionRecord.decode)
      fun value document => { document with transformFunctions := value }
  ]

/-- A document from JSON. -/
def decode : Json.Decoder PipelineDocument :=
  schema.decode

/-- A document as JSON. -/
def encode (document : PipelineDocument) : Json :=
  .record [("Extractsources", .list (document.extractSources.map ExtractSourceRecord.encode)),
    ("Extractrules", .list (document.extractRules.map ExtractRuleRecord.encode)),
    ("Extensions", .list (document.extensions.map ExtensionRecord.encode)),
    ("Transformfunctions",
      .list (document.transformFunctions.map TransformFunctionRecord.encode))]

end PipelineDocument

end PipelineRegistry
