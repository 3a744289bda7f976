import PipelineRegistry.Entity

/-!
# Stored documents

A pipeline is stored as one document with four collections of records. Records differ from entities
in their schemes only: a record keeps the text of a scheme, which may be empty or name no scheme at
all.
-/

namespace PipelineRegistry

/-! ## Records -/

/-- A stored extract source. -/
structure ExtractSourceRecord where
  id : String := ""
  name : String := ""
  path : String := ""
  scheme : String := ""
  regex : String := ""
  tablename : String := ""
  cronExpression : String := ""
  skipHeaders : Option Int := none
  encoding : String := ""
  transport : String := ""
  deriving DecidableEq, Repr

/-- A stored extract rule. -/
structure ExtractRuleRecord where
  id : String := ""
  extractSourceId : String := ""
  columnName : String := ""
  columnPath : String := ""
  columnType : String := ""
  matchValues : String := ""
  transformFunctionName : String := ""
  deriving DecidableEq, Repr

/-- A stored extension. -/
structure ExtensionRecord where
  id : String := ""
  extractSourceId : String := ""
  name : String := ""
  path : String := ""
  deriving DecidableEq, Repr

/-- A stored transform function. -/
structure TransformFunctionRecord where
  id : String := ""
  name : String := ""
  source : String := ""
  deriving DecidableEq, Repr

/-- The stored state of a pipeline. -/
structure PipelineDocument where
  extractSources : List ExtractSourceRecord := []
  extractRules : List ExtractRuleRecord := []
  extensions : List ExtensionRecord := []
  transformFunctions : List TransformFunctionRecord := []
  deriving DecidableEq, Repr

/-! ## Entities and records -/

/-- The record of a source; no scheme is the empty text. -/
def ExtractSource.record (source : ExtractSource) : ExtractSourceRecord where
  id := source.id
  name := source.name
  path := source.path
  scheme := (source.scheme.map Scheme.text).getD ""
  regex := source.regex
  tablename := source.tablename
  cronExpression := source.cronExpression
  skipHeaders := source.skipHeaders
  encoding := source.encoding
  transport := source.transport

/-- The source of a record; a text that names no scheme gives none. -/
def ExtractSourceRecord.entity (record : ExtractSourceRecord) : ExtractSource where
  id := record.id
  name := record.name
  path := record.path
  scheme := Scheme.ofText? record.scheme
  regex := record.regex
  tablename := record.tablename
  cronExpression := record.cronExpression
  skipHeaders := record.skipHeaders
  encoding := record.encoding
  transport := record.transport

/-- The record of a rule. -/
def ExtractRule.record (rule : ExtractRule) : ExtractRuleRecord where
  id := rule.id
  extractSourceId := rule.extractSourceId
  columnName := rule.columnName
  columnPath := rule.columnPath
  columnType := rule.columnType
  matchValues := rule.matchValues
  transformFunctionName := rule.transformFunctionName

/-- The rule of a record. -/
def ExtractRuleRecord.entity (record : ExtractRuleRecord) : ExtractRule where
  id := record.id
  extractSourceId := record.extractSourceId
  columnName := record.columnName
  columnPath := record.columnPath
  columnType := record.columnType
  matchValues := record.matchValues
  transformFunctionName := record.transformFunctionName

/-- The record of an extension. -/
def Extension.record (extension : Extension) : ExtensionRecord where
  id := extension.id
  extractSourceId := extension.extractSourceId
  name := extension.name
  path := extension.path

/-- The extension of a record. -/
def ExtensionRecord.entity (record : ExtensionRecord) : Extension where
  id := record.id
  extractSourceId := record.extractSourceId
  name := record.name
  path := record.path

/-- The record of a transform function. -/
def TransformFunction.record (function : TransformFunction) : TransformFunctionRecord where
  id := function.id
  name := function.name
  source := function.source

/-- The transform function of a record. -/
def TransformFunctionRecord.entity (record : TransformFunctionRecord) : TransformFunction where
  id := record.id
  name := record.name
  source := record.source

/-! ## Queries -/

namespace PipelineDocument

/-- The first source with an id. -/
def findSource? (document : PipelineDocument) (id : String) : Option ExtractSourceRecord :=
  document.extractSources.find? (·.id == id)

/-- The scheme of the first source with an id, if its text names one. -/
def sourceScheme? (document : PipelineDocument) (id : String) : Option Scheme :=
  (document.findSource? id).bind fun source => Scheme.ofText? source.scheme

/-- A source has the path already. Sources with the excepted id do not count. -/
def pathTaken (document : PipelineDocument) (path : String) (except? : Option String) : Bool :=
  document.extractSources.any fun source => source.path == path && some source.id != except?

/-- A transform function has the name. -/
def hasTransformFunction (document : PipelineDocument) (name : String) : Bool :=
  document.transformFunctions.any (·.name == name)

/-- The pipeline that a document describes. -/
def pipeline (document : PipelineDocument) (key : PipelineKey) (version : String) : Pipeline where
  namespaceName := key.namespaceName
  name := key.name
  version := version
  extractSources := document.extractSources.map ExtractSourceRecord.entity
  extractRules := document.extractRules.map ExtractRuleRecord.entity
  extensions := document.extensions.map ExtensionRecord.entity
  transformFunctions := document.transformFunctions.map TransformFunctionRecord.entity

end PipelineDocument

end PipelineRegistry
