import PipelineRegistry.Registry.Mutation

/-!
# Operations on extract rules

The path of a rule must fit the scheme of the source it is bound to, as far as that is known. A rule
stays bound to its source and keeps its type.
-/

namespace PipelineRegistry.Registry

/-! ## Checks -/

/-- What a rule must satisfy in its document: the path fits the scheme of the source, and the
transform function exists if references are enforced. -/
def checkRule (enforces : Bool) (document : PipelineDocument) (sourceId : String)
    (rule : ExtractRule) : Except RegistryError Unit :=
  match ColumnPath.validate (document.sourceScheme? sourceId) rule.columnPath with
  | .error error => .error (.invalid (.columnPath error))
  | .ok () =>
      if enforces && rule.transformFunctionName != "" &&
          !document.hasTransformFunction rule.transformFunctionName then
        .error (.invalid (.unknownTransformFunction rule.transformFunctionName))
      else .ok ()

/-- The fields that a new rule must have. -/
def checkNewRule (rule : ExtractRule) : Except RegistryError Unit := do
  require "extractSourceId" rule.extractSourceId
  require "columnName" rule.columnName
  require "columnPath" rule.columnPath
  require "columnType" rule.columnType

/-- The fields that a rule must have when it replaces another. -/
def checkReplacingRule (rule : ExtractRule) : Except RegistryError Unit := do
  require "columnName" rule.columnName
  require "columnPath" rule.columnPath

/-! ## Changes -/

/-- Adds a rule under a new id. -/
def addRule (enforces : Bool) (id : String) (rule : ExtractRule) : Change Unit := fun document => do
  checkRule enforces document rule.extractSourceId rule
  let record := { rule.record with id := id }
  return ({ document with extractRules := document.extractRules ++ [record] }, ())

/-- A stored rule with the fields that may be replaced. -/
def ruleReplaced (rule : ExtractRule) (stored : ExtractRuleRecord) : ExtractRuleRecord :=
  { stored with
    columnName := rule.columnName
    columnPath := rule.columnPath
    matchValues := rule.matchValues
    transformFunctionName := rule.transformFunctionName }

/-- Replaces fields of every rule with an id. The first of them tells the source. -/
def replaceRule (enforces : Bool) (id : String) (rule : ExtractRule) : Change Unit :=
  fun document => do
    let first ← found .extractRule id (document.extractRules.find? (·.id == id))
    checkRule enforces document first.extractSourceId rule
    let replaced := document.extractRules.map fun stored =>
      if stored.id = id then ruleReplaced rule stored else stored
    return ({ document with extractRules := replaced }, ())

/-- Removes every rule with an id. -/
def removeRule (id : String) : Change Unit := fun document =>
  let remaining := document.extractRules.filter (·.id != id)
  if remaining.length = document.extractRules.length then .error (.notFound .extractRule id)
  else .ok ({ document with extractRules := remaining }, ())

/-! ## Operations -/

/-- Stores a new rule. -/
def createRule (context : Context) (rule : ExtractRule) : Operation MutationOutcome := do
  Operation.ofExcept (checkNewRule rule)
  let id ← Operation.request .freshId
  mutate context ⟨.extractRule, .create⟩
    (addRule context.settings.enforceFunctionReferences id rule)
  return ⟨id, []⟩

/-- Replaces the name and the path of the column, the values and the function of a rule. -/
def updateRule (context : Context) (id : String) (rule : ExtractRule) :
    Operation MutationOutcome := do
  Operation.ofExcept (checkReplacingRule rule)
  mutate context ⟨.extractRule, .update⟩
    (replaceRule context.settings.enforceFunctionReferences id rule)
  return ⟨id, []⟩

/-- Removes a rule. -/
def deleteRule (context : Context) (id : String) : Operation MutationOutcome := do
  mutate context ⟨.extractRule, .delete⟩ (removeRule id)
  return ⟨id, []⟩

/-- Reads a rule. -/
def getRule (context : Context) (id : String) : Operation ExtractRule :=
  inspect context fun document =>
    (found .extractRule id (document.extractRules.find? (·.id == id))).map
      ExtractRuleRecord.entity

/-- Reads all rules. -/
def listRules (context : Context) : Operation (List ExtractRule) :=
  inspect context fun document => .ok (document.extractRules.map ExtractRuleRecord.entity)

end PipelineRegistry.Registry
