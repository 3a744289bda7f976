import PipelineRegistry.Proofs.OrderedMaps

/-!
# One snapshot for all readings

A stored document holds four lists. The lists themselves are read by four operations, one entity of
a list by four more, and a whole pipeline by one. All of them show the same snapshot, in the same
order, also when ids occur twice or a scheme cannot be read. What services answer shows in two
fields of a source only, so whoever controls the services can neither make a reading fail nor change
anything else that it shows.
-/

namespace PipelineRegistry

open Registry

/-! ## Snapshots -/

/-- The four lists that clients are shown of a document. -/
structure Snapshot where
  sources : List ExtractSource
  rules : List ExtractRule
  extensions : List Extension
  functions : List TransformFunction
  deriving DecidableEq, Repr

def PipelineDocument.snapshot (document : PipelineDocument) : Snapshot where
  sources := document.extractSources.map ExtractSourceRecord.entity
  rules := document.extractRules.map ExtractRuleRecord.entity
  extensions := document.extensions.map ExtensionRecord.entity
  functions := document.transformFunctions.map TransformFunctionRecord.entity

/-- A source with what a snapshot binds to it. -/
def Snapshot.detail (snapshot : Snapshot) (id : String) (source : ExtractSource)
    (workerActive : Option Bool) (metrics : List SourceMetric) : ExtractSourceDetail where
  source := source
  extractRules := snapshot.rules.filter (·.extractSourceId == id)
  extensions := snapshot.extensions.filter (·.extractSourceId == id)
  workerActive := workerActive
  metrics := metrics

/-- What a client is told of a source, given a snapshot and what services answer. A service fails,
is late or is cut off in an error; all of these are the same to the client. -/
structure Tells (surroundings : Surroundings) (context : Context) (snapshot : Snapshot)
    (id : String) (detail : ExtractSourceDetail) : Prop where
  source : snapshot.sources.find? (·.id == id) = some detail.source
  rules : detail.extractRules = snapshot.rules.filter (·.extractSourceId == id)
  extensions : detail.extensions = snapshot.extensions.filter (·.extractSourceId == id)
  active : ∀ active,
    detail.workerActive = some active ↔
      detail.source.scheme = some .api ∧
        surroundings.service
          (.workerActive context.key (workerSelector detail.source.name)) = .ok active
  measured : ∀ metrics,
    context.settings.measuresSources = true →
    surroundings.service (.sourceMetrics id) = .ok metrics → detail.metrics = metrics
  unmeasured :
    (context.settings.measuresSources = false ∨
      ∃ failure, surroundings.service (.sourceMetrics id) = .error failure) →
    detail.metrics = []

/-- Every reading shows the snapshot and leaves the store as it is. -/
structure ShowsSnapshot (surroundings : Surroundings) (context : Context) (store : Store)
    (snapshot : Snapshot) : Prop where
  sources :
    (listSources context).serve surroundings store = (.ok snapshot.sources, store)
  rules :
    (listRules context).serve surroundings store = (.ok snapshot.rules, store)
  extensions :
    (listExtensions context).serve surroundings store = (.ok snapshot.extensions, store)
  functions :
    (listFunctions context).serve surroundings store = (.ok snapshot.functions, store)
  pipeline : ∃ version,
    (getPipeline context).serve surroundings store =
      (.ok ⟨context.key.namespaceName, context.key.name, version, snapshot.sources,
        snapshot.rules, snapshot.extensions, snapshot.functions⟩, store)
  source : ∀ id,
    (∃ detail,
      (getSource context id).serve surroundings store = (.ok detail, store) ∧
        Tells surroundings context snapshot id detail) ∨
    (snapshot.sources.find? (·.id == id) = none ∧
      (getSource context id).serve surroundings store =
        (.error (.notFound .extractSource id), store))
  rule : ∀ id,
    (getRule context id).serve surroundings store =
      (found .extractRule id (snapshot.rules.find? (·.id == id)), store)
  extension : ∀ id,
    (getExtension context id).serve surroundings store =
      (found .extension id (snapshot.extensions.find? (·.id == id)), store)
  function : ∀ id,
    (getFunction context id).serve surroundings store =
      (found .transformFunction id (snapshot.functions.find? (·.id == id)), store)

section Snapshots

variable {surroundings : Surroundings} {store : Store} {context : Context}
  {document : PipelineDocument} {counter : Int}

/-! ## Looking up before and after showing -/

theorem ExtractRuleRecord.id_entity (record : ExtractRuleRecord) :
    record.entity.id = record.id :=
  rfl

theorem ExtensionRecord.id_entity (record : ExtensionRecord) :
    record.entity.id = record.id :=
  rfl

theorem TransformFunctionRecord.id_entity (record : TransformFunctionRecord) :
    record.entity.id = record.id :=
  rfl

theorem find?_map_entity
    {α β : Type} {entity : α → β} {recordId : α → String} {entityId : β → String}
    (same : ∀ record, entityId (entity record) = recordId record)
    (records : List α) (id : String) :
    (records.map entity).find? (entityId · == id) =
      (records.find? (recordId · == id)).map entity := by
  have pointwise : (fun shown => entityId shown == id) ∘ entity =
      fun record => recordId record == id := by
    funext record
    rw [Function.comp_apply, same]
  rw [List.find?_map, pointwise]

theorem filter_map_entity
    {α β : Type} {entity : α → β} {recordId : α → String} {entityId : β → String}
    (same : ∀ record, entityId (entity record) = recordId record)
    (records : List α) (id : String) :
    (records.map entity).filter (entityId · == id) =
      (records.filter (recordId · == id)).map entity := by
  have pointwise : (fun shown => entityId shown == id) ∘ entity =
      fun record => recordId record == id := by
    funext record
    rw [Function.comp_apply, same]
  rw [List.filter_map, pointwise]

theorem found_map
    {α β : Type} (kind : EntityKind) (id : String) (found? : Option α) (entity : α → β) :
    (found kind id found?).map entity = found kind id (found?.map entity) := by
  cases found? with
  | none => rfl
  | some record => rfl

/-! ## Sources -/

/-- A source is described from the snapshot alone. -/
theorem describeSource_eq
    (id : String) (document : PipelineDocument) :
    describeSource id document =
      (found .extractSource id (document.snapshot.sources.find? (·.id == id))).map
        fun source => document.snapshot.detail id source none [] := by
  have sources : document.snapshot.sources.find? (·.id == id) =
      (document.findSource? id).map ExtractSourceRecord.entity :=
    find?_map_entity (fun _ => rfl) document.extractSources id
  have rules : document.snapshot.rules.filter (·.extractSourceId == id) =
      (document.extractRules.filter (·.extractSourceId == id)).map ExtractRuleRecord.entity :=
    filter_map_entity (fun _ => rfl) document.extractRules id
  have extensions : document.snapshot.extensions.filter (·.extractSourceId == id) =
      (document.extensions.filter (·.extractSourceId == id)).map ExtensionRecord.entity :=
    filter_map_entity (fun _ => rfl) document.extensions id
  -- what is left of both sides asks for the source in the records
  simp only [Snapshot.detail, sources, rules, extensions]
  unfold describeSource
  cases document.findSource? id with
  | none => rfl
  | some record => rfl

theorem describeSource_of_listed
    {source : ExtractSource} {id : String}
    (listed : document.snapshot.sources.find? (·.id == id) = some source) :
    describeSource id document = .ok (document.snapshot.detail id source none []) := by
  rw [describeSource_eq, listed]
  rfl

theorem describeSource_of_unlisted
    {id : String} (unlisted : document.snapshot.sources.find? (·.id == id) = none) :
    describeSource id document = .error (.notFound .extractSource id) := by
  rw [describeSource_eq, unlisted]
  rfl

theorem tells_detail
    {source : ExtractSource} {snapshot : Snapshot} {id : String}
    (surroundings : Surroundings) (context : Context)
    (listed : snapshot.sources.find? (·.id == id) = some source) :
    Tells surroundings context snapshot id
      (snapshot.detail id source
        (if source.scheme = some .api then
          (surroundings.service
            (.workerActive context.key (workerSelector source.name))).toOption
          else none)
        (if context.settings.measuresSources then
          (surroundings.service (.sourceMetrics id)).toOption.getD [] else [])) := by
  refine ⟨listed, rfl, rfl, ?active, ?measured, ?unmeasured⟩
  case active =>
    intro active
    simp only [Snapshot.detail]
    by_cases isApi : source.scheme = some .api
    · rw [if_pos isApi]
      cases surroundings.service (.workerActive context.key (workerSelector source.name)) with
      | ok answered => simp [isApi, Except.toOption]
      | error failure => simp [Except.toOption]
    · simp [isApi]
  case measured =>
    intro metrics measures answered
    simp only [Snapshot.detail, if_pos measures, answered]
    rfl
  case unmeasured =>
    rintro (absent | ⟨failure, failed⟩)
    · simp [Snapshot.detail, absent]
    · simp [Snapshot.detail, failed, Except.toOption]

theorem serve_getSource_cases
    (surroundings : Surroundings)
    (known : store.find? context.key = some ⟨document, counter⟩) (id : String) :
    (∃ detail,
      (getSource context id).serve surroundings store = (.ok detail, store) ∧
        Tells surroundings context document.snapshot id detail) ∨
    (document.snapshot.sources.find? (·.id == id) = none ∧
      (getSource context id).serve surroundings store =
        (.error (.notFound .extractSource id), store)) := by
  cases listed : document.snapshot.sources.find? (·.id == id) with
  | none =>
      have inspected := serve_inspect surroundings known (describeSource id)
      rw [describeSource_of_unlisted listed] at inspected
      unfold getSource
      exact Or.inr ⟨rfl, Operation.serve_bind_of_error inspected⟩
  | some source =>
      have described := describeSource_of_listed listed
      exact Or.inl ⟨_, serve_getSource_of_described surroundings known described,
        tells_detail surroundings context listed⟩

/-! ## All readings -/

theorem serve_entity
    {α β : Type} (records : PipelineDocument → List α)
    {entity : α → β} {recordId : α → String} {entityId : β → String}
    (same : ∀ record, entityId (entity record) = recordId record)
    (surroundings : Surroundings)
    (known : store.find? context.key = some ⟨document, counter⟩)
    (kind : EntityKind) (id : String) :
    (inspect context fun document =>
      (found kind id ((records document).find? (recordId · == id))).map entity).serve
        surroundings store =
      (found kind id (((records document).map entity).find? (entityId · == id)), store) := by
  rw [serve_inspect surroundings known, find?_map_entity same, found_map]

theorem showsSnapshot
    (known : store.find? context.key = some ⟨document, counter⟩)
    (surroundings : Surroundings) :
    ShowsSnapshot surroundings context store document.snapshot where
  sources := serve_inspect surroundings known _
  rules := serve_inspect surroundings known _
  extensions := serve_inspect surroundings known _
  functions := serve_inspect surroundings known _
  pipeline := by
    refine ⟨(Version.ofCounter counter).token, ?_⟩
    unfold getPipeline
    rw [Operation.serve_bind_of_ok (serve_load known)]
    exact Operation.serve_pure _
  source := serve_getSource_cases surroundings known
  rule :=
    serve_entity PipelineDocument.extractRules ExtractRuleRecord.id_entity surroundings known
      .extractRule
  extension :=
    serve_entity PipelineDocument.extensions ExtensionRecord.id_entity surroundings known
      .extension
  function :=
    serve_entity PipelineDocument.transformFunctions TransformFunctionRecord.id_entity
      surroundings known .transformFunction

/-- What services answer shows in no reading, apart from the two fields that say what they
answered. -/
theorem stored_serve_eq
    (known : store.find? context.key = some ⟨document, counter⟩)
    (first second : Surroundings) (reading : Reading) :
    ((reading.operation context).serve first store).1.map Reply.stored =
      ((reading.operation context).serve second store).1.map Reply.stored := by
  obtain ⟨firstResult, firstServed, firstShows⟩ := serve_reading first known reading
  obtain ⟨secondResult, secondServed, secondShows⟩ := serve_reading second known reading
  rw [firstServed, secondServed]
  exact firstShows.trans secondShows.symm

/-- All readings of a stored pipeline show one snapshot, whatever the services do. -/
theorem readings_show_one_snapshot
    (known : store.find? context.key = some ⟨document, counter⟩) :
    (∀ surroundings, ShowsSnapshot surroundings context store document.snapshot) ∧
      ∀ (first second : Surroundings) (reading : Reading),
        ((reading.operation context).serve first store).1.map Reply.stored =
            ((reading.operation context).serve second store).1.map Reply.stored ∧
          ((reading.operation context).serve first store).2 = store := by
  refine ⟨showsSnapshot known, ?_⟩
  intro first second reading
  obtain ⟨result, served, -⟩ := serve_reading first known reading
  exact ⟨stored_serve_eq known first second reading, by rw [served]⟩

end Snapshots

/-! ## A source that is stored twice -/

namespace TwinSources

def context : Context :=
  ⟨{ measuresSources := true }, ⟨"default", "sales"⟩⟩

/-- The sources share an id, and the scheme of the second one is blank, so it cannot be read. -/
def document : PipelineDocument where
  extractSources :=
    [{ id := "1", name := "orders", scheme := "API" }, { id := "1", scheme := " " }]
  extractRules := [{ id := "2", extractSourceId := "1" }, { id := "3", extractSourceId := "4" }]

def store : Store :=
  ⟨[(context.key, ⟨document, 3⟩)]⟩

theorem find?_store : store.find? context.key = some ⟨document, 3⟩ :=
  rfl

theorem schemes : document.snapshot.sources.map ExtractSource.scheme = [some .api, none] := by
  decide

end TwinSources

theorem readings_show_one_snapshot_twin_sources :
    TwinSources.store.find? TwinSources.context.key = some ⟨TwinSources.document, 3⟩ ∧
      TwinSources.document.snapshot.sources.map ExtractSource.scheme = [some .api, none] ∧
      (∀ surroundings,
        ShowsSnapshot surroundings TwinSources.context TwinSources.store
          TwinSources.document.snapshot) ∧
      ∀ (first second : Surroundings) (reading : Reading),
        ((reading.operation TwinSources.context).serve first TwinSources.store).1.map
              Reply.stored =
            ((reading.operation TwinSources.context).serve second TwinSources.store).1.map
              Reply.stored ∧
          ((reading.operation TwinSources.context).serve first TwinSources.store).2 =
            TwinSources.store :=
  ⟨TwinSources.find?_store, TwinSources.schemes,
    readings_show_one_snapshot TwinSources.find?_store⟩

end PipelineRegistry
