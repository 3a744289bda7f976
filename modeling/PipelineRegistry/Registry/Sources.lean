import PipelineRegistry.Registry.Notice

/-!
# Operations on extract sources

No two sources of a pipeline have the same path. Which other fields a source must have depends on
its scheme. The runtime is told of every change.
-/

namespace PipelineRegistry.Registry

/-! ## Checks -/

/-- What becomes of the rules and extensions of a source that is removed. -/
inductive DeleteMode
  | orphan
  | cascade
  deriving DecidableEq, Repr

/-- Sources of services and of workbooks tell how many headers to skip. -/
def checkSkipHeaders : Option Int → Except RegistryError Unit
  | none => .error (.invalid (.missingField "skipHeaders"))
  | some count =>
      if count < 0 then .error (.invalid (.negativeSkipHeaders count)) else .ok ()

/-- The fields that a source must have. -/
def checkSource (source : ExtractSource) : Except RegistryError Unit := do
  require "name" source.name
  require "path" source.path
  match source.scheme with
  | none => throw (.invalid (.missingField "scheme"))
  | some scheme =>
      if scheme ≠ .api then require "regex" source.regex
      if scheme = .api ∨ scheme = .xlsx then checkSkipHeaders source.skipHeaders
      require "tablename" source.tablename

/-! ## Changes -/

/-- Adds a source under a new id. -/
def addSource (id : String) (source : ExtractSource) : Change Unit := fun document =>
  if document.pathTaken source.path none then .error (.invalid (.pathTaken source.path))
  else
    let record := { source.record with id := id }
    .ok ({ document with extractSources := document.extractSources ++ [record] }, ())

/-- Replaces every source with an id. -/
def replaceSource (id : String) (source : ExtractSource) : Change Unit := fun document =>
  if (document.findSource? id).isNone then .error (.notFound .extractSource id)
  else if document.pathTaken source.path (some id) then
    .error (.invalid (.pathTaken source.path))
  else
    let record := { source.record with id := id }
    let replaced := document.extractSources.map fun stored =>
      if stored.id = id then record else stored
    .ok ({ document with extractSources := replaced }, ())

/-- Removes all that is bound to a source. -/
def removeBound (id : String) (document : PipelineDocument) : PipelineDocument :=
  { document with
    extractRules := document.extractRules.filter (·.extractSourceId != id)
    extensions := document.extensions.filter (·.extractSourceId != id) }

/-- Removes the first source with an id and gives its record. -/
def removeSource (id : String) (mode : DeleteMode) : Change ExtractSourceRecord := fun document =>
  match document.findSource? id with
  | none => .error (.notFound .extractSource id)
  | some removed =>
      let remaining :=
        { document with extractSources := document.extractSources.eraseP (·.id == id) }
      match mode with
      | .orphan => .ok (remaining, removed)
      | .cascade => .ok (removeBound id remaining, removed)

/-! ## Operations -/

/-- Stores a new source. -/
def createSource (context : Context) (source : ExtractSource) : Operation MutationOutcome := do
  Operation.ofExcept (checkSource source)
  let id ← Operation.request .freshId
  mutate context ⟨.extractSource, .create⟩ (addSource id source)
  return ⟨id, ← sourcesChanged context⟩

/-- Replaces every field of a source but its id. -/
def updateSource (context : Context) (id : String) (source : ExtractSource) :
    Operation MutationOutcome := do
  Operation.ofExcept (checkSource source)
  mutate context ⟨.extractSource, .update⟩ (replaceSource id source)
  return ⟨id, ← sourcesChanged context⟩

/-- Removes a source. -/
def deleteSource (context : Context) (id : String) (mode : DeleteMode) :
    Operation MutationOutcome := do
  let removed ← mutate context ⟨.extractSource, .delete⟩ (removeSource id mode)
  return ⟨removed.id, ← sourceRemoved context removed.name⟩

/-! ## Reading -/

/-- Whether workers of a source are active, if the runtime can tell. -/
def probeWorkers (context : Context) (sourceName : String) : Operation (Option Bool) := do
  let call := ServiceCall.workerActive context.key (workerSelector sourceName)
  match ← Operation.request (.service context.settings.bound call) with
  | .ok active => return some active
  | .error _ => return none

/-- The metrics of a source, if there is a service that has them. -/
def measureSource (context : Context) (id : String) : Operation (List SourceMetric) := do
  if context.settings.measuresSources then
    match ← Operation.request (.service context.settings.bound (.sourceMetrics id)) with
    | .ok metrics => return metrics
    | .error _ => return []
  else return []

/-- What a document says about a source: the source itself and what is bound to it. -/
def describeSource (id : String) (document : PipelineDocument) :
    Except RegistryError ExtractSourceDetail := do
  let record ← found .extractSource id (document.findSource? id)
  return {
    source := record.entity
    extractRules :=
      (document.extractRules.filter (·.extractSourceId == id)).map ExtractRuleRecord.entity
    extensions :=
      (document.extensions.filter (·.extractSourceId == id)).map ExtensionRecord.entity
    workerActive := none
    metrics := [] }

/-- Reads a source with all that is bound to it. Only sources of services have workers. -/
def getSource (context : Context) (id : String) : Operation ExtractSourceDetail := do
  let detail ← inspect context (describeSource id)
  let workerActive ←
    if detail.source.scheme = some .api then probeWorkers context detail.source.name
    else pure none
  let metrics ← measureSource context id
  return { detail with workerActive := workerActive, metrics := metrics }

/-- Reads all sources. -/
def listSources (context : Context) : Operation (List ExtractSource) :=
  inspect context fun document =>
    .ok (document.extractSources.map ExtractSourceRecord.entity)

end PipelineRegistry.Registry
