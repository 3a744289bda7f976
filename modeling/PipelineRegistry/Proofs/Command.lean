import PipelineRegistry.Proofs.EditHistory
import PipelineRegistry.Registry.Pipelines

/-!
# Commands of clients

A command is anything a client can ask of the registry: an edit, a reading, or that a pipeline is
created or deleted. Readings look at one stored document each; only edits write documents.
-/

namespace PipelineRegistry

open Registry

/-! ## Readings -/

/-- What a command that succeeds is answered with. -/
inductive Reply
  | outcome (outcome : MutationOutcome)
  | source (detail : ExtractSourceDetail)
  | sources (sources : List ExtractSource)
  | rule (rule : ExtractRule)
  | rules (rules : List ExtractRule)
  | extension (extension : Extension)
  | extensions (extensions : List Extension)
  | function (function : TransformFunction)
  | functions (functions : List TransformFunction)
  | pipeline (pipeline : Pipeline)
  | deleted
  deriving DecidableEq, Repr

/-- A reply without what other services have said. -/
def Reply.stored : Reply → Reply
  | source detail => source { detail with workerActive := none, metrics := [] }
  | reply => reply

/-- Something a client asks to be told about a pipeline. -/
inductive Reading
  | getSource (id : String)
  | listSources
  | getRule (id : String)
  | listRules
  | getExtension (id : String)
  | listExtensions
  | getFunction (id : String)
  | listFunctions
  | getPipeline
  deriving DecidableEq, Repr

namespace Reading

/-- The operation that serves a reading. -/
def operation (context : Context) : Reading → Operation Reply
  | getSource id => .source <$> Registry.getSource context id
  | listSources => .sources <$> Registry.listSources context
  | getRule id => .rule <$> Registry.getRule context id
  | listRules => .rules <$> Registry.listRules context
  | getExtension id => .extension <$> Registry.getExtension context id
  | listExtensions => .extensions <$> Registry.listExtensions context
  | getFunction id => .function <$> Registry.getFunction context id
  | listFunctions => .functions <$> Registry.listFunctions context
  | getPipeline => .pipeline <$> Registry.getPipeline context

/-- What a document at a version says to a reading. -/
def view (context : Context) (document : PipelineDocument) (version : Version) :
    Reading → Except RegistryError Reply
  | getSource id => (describeSource id document).map .source
  | listSources => .ok (.sources (document.extractSources.map ExtractSourceRecord.entity))
  | getRule id =>
      (found .extractRule id (document.extractRules.find? (·.id == id))).map
        fun record => .rule record.entity
  | listRules => .ok (.rules (document.extractRules.map ExtractRuleRecord.entity))
  | getExtension id =>
      (found .extension id (document.extensions.find? (·.id == id))).map
        fun record => .extension record.entity
  | listExtensions => .ok (.extensions (document.extensions.map ExtensionRecord.entity))
  | getFunction id =>
      (found .transformFunction id (document.transformFunctions.find? (·.id == id))).map
        fun record => .function record.entity
  | listFunctions =>
      .ok (.functions (document.transformFunctions.map TransformFunctionRecord.entity))
  | getPipeline => .ok (.pipeline (document.pipeline context.key version.token))

/-- A result shows a document at a version: it is what the document says, apart
from what other services have said about a source. -/
def Shows (context : Context) (reading : Reading) (document : PipelineDocument)
    (version : Version) (result : Except RegistryError Reply) : Prop :=
  result.map Reply.stored = reading.view context document version

end Reading

/-! ## Commands -/

/-- Something a client asks of the registry. -/
inductive Command
  | edit (edit : Edit)
  | read (reading : Reading)
  | createPipeline
  | deletePipeline
  deriving DecidableEq, Repr

def Command.operation (context : Context) : Command → Operation Reply
  | edit asked => .outcome <$> asked.operation context
  | read asked => asked.operation context
  | createPipeline => .pipeline <$> Registry.createPipeline context
  | deletePipeline => (fun _ => .deleted) <$> Registry.deletePipeline context

/-! ## Histories of readings -/

namespace Reading

variable {α : Type} {context : Context} {history : List Exchange}

theorem yields_inspect
    {look : PipelineDocument → Except RegistryError α} {result : Except RegistryError α}
    (yields : Operation.Yields (inspect context look) history result) :
    (∃ failure,
      history = [.load context (.error failure)] ∧ result = .error (.ofCall failure)) ∨
    ∃ document version,
      history = [.load context (.ok (document, version))] ∧ result = look document := by
  unfold inspect at yields
  rw [Operation.yields_bind_iff] at yields
  rcases yields with ⟨error, loaded, rfl⟩ | ⟨earlier, later, read, rfl, loaded, yields⟩
  · rcases yields_load_iff.mp loaded with ⟨failure, rfl, same⟩ | ⟨_, _, same⟩
    · cases same
      exact Or.inl ⟨failure, rfl, rfl⟩
    · cases same
  · rcases yields_load_iff.mp loaded with ⟨_, _, same⟩ | ⟨⟨document, version⟩, rfl, same⟩
    · cases same
    · cases same
      obtain ⟨rfl, rfl⟩ := Operation.yields_ofExcept_iff.mp yields
      exact Or.inr ⟨document, version, rfl, rfl⟩

theorem yields_probeWorkers
    {sourceName : String} {result : Except RegistryError (Option Bool)}
    (yields : Operation.Yields (probeWorkers context sourceName) history result) :
    (∃ active, result = .ok active) ∧ ∀ exchange ∈ history, exchange.isWrite = false := by
  unfold probeWorkers at yields
  rw [Operation.yields_request_bind_iff] at yields
  obtain ⟨failure | active, rest, rfl, ended⟩ := yields
  all_goals
    obtain ⟨rfl, rfl⟩ := Operation.yields_pure_iff.mp ended
    refine ⟨⟨_, rfl⟩, ?_⟩
    simp only [List.mem_singleton, forall_eq]
    rfl

theorem yields_measureSource
    {id : String} {result : Except RegistryError (List SourceMetric)}
    (yields : Operation.Yields (measureSource context id) history result) :
    (∃ metrics, result = .ok metrics) ∧ ∀ exchange ∈ history, exchange.isWrite = false := by
  unfold measureSource at yields
  split at yields
  · rw [Operation.yields_request_bind_iff] at yields
    obtain ⟨failure | metrics, rest, rfl, ended⟩ := yields
    all_goals
      obtain ⟨rfl, rfl⟩ := Operation.yields_pure_iff.mp ended
      refine ⟨⟨_, rfl⟩, ?_⟩
      simp only [List.mem_singleton, forall_eq]
      rfl
  · obtain ⟨rfl, rfl⟩ := Operation.yields_pure_iff.mp yields
    exact ⟨⟨[], rfl⟩, by simp⟩

theorem stored_describeSource
    {id : String} {document : PipelineDocument} {detail : ExtractSourceDetail}
    (described : describeSource id document = .ok detail)
    (workerActive : Option Bool) (metrics : List SourceMetric) :
    Reply.stored (.source { detail with workerActive := workerActive, metrics := metrics }) =
      .source detail := by
  unfold describeSource at described
  cases known : found .extractSource id (document.findSource? id) with
  | error error =>
      rw [known] at described
      cases described
  | ok record =>
      rw [known] at described
      cases described
      rfl

theorem stored_of_measured
    {id : String} {document : PipelineDocument} {detail : ExtractSourceDetail}
    {workerActive : Option Bool} {result : Except RegistryError ExtractSourceDetail}
    (described : describeSource id document = .ok detail)
    (yields : Operation.Yields
      (do
        let metrics ← measureSource context id
        return { detail with workerActive := workerActive, metrics := metrics })
      history result) :
    (∀ exchange ∈ history, exchange.isWrite = false) ∧
      (result.map Reply.source).map Reply.stored = .ok (.source detail) := by
  rw [Operation.yields_bind_iff] at yields
  rcases yields with ⟨error, failed, rfl⟩ | ⟨first, last, metrics, rfl, measured, ended⟩
  · obtain ⟨⟨_, impossible⟩, _⟩ := yields_measureSource failed
    cases impossible
  · obtain ⟨rfl, rfl⟩ := Operation.yields_pure_iff.mp ended
    refine ⟨?_, congrArg Except.ok (stored_describeSource described workerActive metrics)⟩
    simpa using (yields_measureSource measured).2

theorem stored_of_probed
    {id : String} {document : PipelineDocument} {detail : ExtractSourceDetail}
    {probe : Operation (Option Bool)} {result : Except RegistryError ExtractSourceDetail}
    (described : describeSource id document = .ok detail)
    (harmless : ∀ {active answered}, Operation.Yields probe answered active →
      (∃ known, active = .ok known) ∧ ∀ exchange ∈ answered, exchange.isWrite = false)
    (yields : Operation.Yields
      (probe >>= fun workerActive => do
        let metrics ← measureSource context id
        return { detail with workerActive := workerActive, metrics := metrics })
      history result) :
    (∀ exchange ∈ history, exchange.isWrite = false) ∧
      (result.map Reply.source).map Reply.stored = .ok (.source detail) := by
  rw [Operation.yields_bind_iff] at yields
  rcases yields with ⟨error, failed, rfl⟩ | ⟨first, last, active, rfl, answered, measured⟩
  · obtain ⟨⟨_, impossible⟩, _⟩ := harmless failed
    cases impossible
  · obtain ⟨quiet, shown⟩ := stored_of_measured described measured
    refine ⟨?_, shown⟩
    intro exchange member
    rcases List.mem_append.mp member with member | member
    · exact (harmless answered).2 exchange member
    · exact quiet exchange member

/-- Reading a source asks other services after the document has been read. -/
theorem yields_getSource
    {id : String} {result : Except RegistryError ExtractSourceDetail}
    (yields : Operation.Yields (Registry.getSource context id) history result) :
    (∃ failure,
      history = [.load context (.error failure)] ∧ result = .error (.ofCall failure)) ∨
    ∃ document version rest,
      history = .load context (.ok (document, version)) :: rest ∧
      (∀ exchange ∈ rest, exchange.isWrite = false) ∧
      (result.map Reply.source).map Reply.stored =
        (describeSource id document).map Reply.source := by
  unfold Registry.getSource at yields
  rw [Operation.yields_bind_iff] at yields
  rcases yields with ⟨error, read, rfl⟩ | ⟨earlier, later, detail, rfl, read, yields⟩
  · rcases yields_inspect read with ⟨failure, rfl, same⟩ | ⟨document, version, rfl, same⟩
    · cases same
      exact Or.inl ⟨failure, rfl, rfl⟩
    · exact Or.inr ⟨document, version, [], rfl, by simp, by rw [← same]; rfl⟩
  · rcases yields_inspect read with ⟨_, _, impossible⟩ | ⟨document, version, rfl, described⟩
    · cases impossible
    have known :
        (∀ exchange ∈ later, exchange.isWrite = false) ∧
          (result.map Reply.source).map Reply.stored = .ok (.source detail) := by
      by_cases isApi : detail.source.scheme = some .api
      · simp only [isApi, ↓reduceIte] at yields
        exact stored_of_probed described.symm yields_probeWorkers yields
      · simp only [isApi, ↓reduceIte] at yields
        exact stored_of_measured described.symm yields
    have replied := known.2.trans (congrArg (Except.map Reply.source) described)
    exact Or.inr ⟨document, version, later, rfl, known.1, replied⟩

theorem shows_of_inspect
    {reading : Reading} {look : PipelineDocument → Except RegistryError α} {reply : α → Reply}
    {result : Except RegistryError Reply}
    (spoken : ∀ document version,
      reading.Shows context document version ((look document).map reply))
    (yields : Operation.Yields (reply <$> inspect context look) history result) :
    (∃ failure,
      history = [.load context (.error failure)] ∧ result = .error (.ofCall failure)) ∨
    ∃ document version rest,
      history = .load context (.ok (document, version)) :: rest ∧
      (∀ exchange ∈ rest, exchange.isWrite = false) ∧
      reading.Shows context document version result := by
  obtain ⟨found, looked, rfl⟩ := Operation.yields_map_iff.mp yields
  rcases yields_inspect looked with ⟨failure, rfl, rfl⟩ | ⟨document, version, rfl, rfl⟩
  · exact Or.inl ⟨failure, rfl, rfl⟩
  · exact Or.inr ⟨document, version, [], rfl, by simp, spoken document version⟩

theorem yields_getPipeline
    {result : Except RegistryError Pipeline}
    (yields : Operation.Yields (Registry.getPipeline context) history result) :
    (∃ failure,
      history = [.load context (.error failure)] ∧ result = .error (.ofCall failure)) ∨
    ∃ document version,
      history = [.load context (.ok (document, version))] ∧
      result = .ok (document.pipeline context.key version.token) := by
  unfold Registry.getPipeline at yields
  rw [Operation.yields_bind_iff] at yields
  rcases yields with ⟨error, loaded, rfl⟩ | ⟨earlier, later, read, rfl, loaded, yields⟩
  · rcases yields_load_iff.mp loaded with ⟨failure, rfl, same⟩ | ⟨_, _, same⟩
    · cases same
      exact Or.inl ⟨failure, rfl, rfl⟩
    · cases same
  · rcases yields_load_iff.mp loaded with ⟨_, _, same⟩ | ⟨⟨document, version⟩, rfl, same⟩
    · cases same
    · cases same
      obtain ⟨rfl, rfl⟩ := Operation.yields_pure_iff.mp yields
      exact Or.inr ⟨document, version, rfl, rfl⟩

/-- A reading begins with the document, writes nothing, and shows what it has
read. -/
theorem yields_operation
    {reading : Reading} {result : Except RegistryError Reply}
    (yields : Operation.Yields (reading.operation context) history result) :
    (∃ failure,
      history = [.load context (.error failure)] ∧ result = .error (.ofCall failure)) ∨
    ∃ document version rest,
      history = .load context (.ok (document, version)) :: rest ∧
      (∀ exchange ∈ rest, exchange.isWrite = false) ∧
      reading.Shows context document version result := by
  cases reading with
  | getSource id =>
      obtain ⟨answered, asked, rfl⟩ := Operation.yields_map_iff.mp yields
      rcases yields_getSource asked with
        ⟨failure, rfl, rfl⟩ | ⟨document, version, rest, rfl, quiet, shown⟩
      · exact Or.inl ⟨failure, rfl, rfl⟩
      · exact Or.inr ⟨document, version, rest, rfl, quiet, shown⟩
  | getPipeline =>
      obtain ⟨answered, asked, rfl⟩ := Operation.yields_map_iff.mp yields
      rcases yields_getPipeline asked with ⟨failure, rfl, rfl⟩ | ⟨document, version, rfl, rfl⟩
      · exact Or.inl ⟨failure, rfl, rfl⟩
      · exact Or.inr ⟨document, version, [], rfl, by simp, rfl⟩
  | getRule id =>
      refine shows_of_inspect (fun document version => ?_) yields
      cases known : found .extractRule id (document.extractRules.find? (·.id == id)) with
      | error | ok =>
          simp only [Shows, view, known]
          rfl
  | getExtension id =>
      refine shows_of_inspect (fun document version => ?_) yields
      cases known : found .extension id (document.extensions.find? (·.id == id)) with
      | error | ok =>
          simp only [Shows, view, known]
          rfl
  | getFunction id =>
      refine shows_of_inspect (fun document version => ?_) yields
      cases known :
          found .transformFunction id (document.transformFunctions.find? (·.id == id)) with
      | error | ok =>
          simp only [Shows, view, known]
          rfl
  | listSources =>
      refine shows_of_inspect (fun document version => ?_) yields
      rfl
  | listRules =>
      refine shows_of_inspect (fun document version => ?_) yields
      rfl
  | listExtensions =>
      refine shows_of_inspect (fun document version => ?_) yields
      rfl
  | listFunctions =>
      refine shows_of_inspect (fun document version => ?_) yields
      rfl

theorem isWrite_of_yields
    {reading : Reading} {result : Except RegistryError Reply}
    (yields : Operation.Yields (reading.operation context) history result) :
    ∀ exchange ∈ history, exchange.isWrite = false := by
  rcases yields_operation yields with
    ⟨failure, rfl, _⟩ | ⟨document, version, rest, rfl, quiet, _⟩
  · simp
  · simpa using quiet

end Reading

/-! ## Histories of commands -/

namespace Command

variable {context : Context} {history before after : List Exchange}

/-- A command makes one call to the store. It fails as the call fails, and makes its reply of what
the call is answered. -/
def MakesOneCall (context : Context) (call : StoreCall) (reply : call.Answer → Reply)
    (command : Command) : Prop :=
  (command.operation context).run =
    .ask (.store context.settings.bound call) fun answer =>
      .done ((answer.map reply).mapError .ofCall)

theorem makesOneCall_createPipeline (context : Context) :
    createPipeline.MakesOneCall context (.create context.key) fun version =>
      .pipeline (PipelineDocument.pipeline {} context.key version.token) := by
  refine congrArg (Program.ask _) (funext fun answer => ?_)
  cases answer with
  | error failure | ok version => rfl

theorem makesOneCall_deletePipeline (context : Context) :
    deletePipeline.MakesOneCall context (.delete context.key) fun _ => .deleted := by
  refine congrArg (Program.ask _) (funext fun answer => ?_)
  cases answer with
  | error failure | ok done => rfl

theorem MakesOneCall.yields
    {command : Command} {call : StoreCall} {reply : call.Answer → Reply}
    {result : Except RegistryError Reply} (makes : command.MakesOneCall context call reply)
    (yields : Operation.Yields (command.operation context) history result) :
    ∃ answer,
      history = [⟨.store context.settings.bound call, answer⟩] ∧
        result = (answer.map reply).mapError .ofCall := by
  unfold Operation.Yields at yields
  rw [makes] at yields
  obtain ⟨answer, rest, rfl, ended⟩ := Program.yields_ask_iff.mp yields
  obtain ⟨rfl, rfl⟩ := Program.yields_done_iff.mp ended
  exact ⟨answer, rfl, rfl⟩

/-- Every write that a client makes in the course of a command belongs to an
edit, and was drafted by it from what was read right before. -/
theorem drafted_of_asked
    {command : Command} {bound : Bound} {key : PipelineKey} {written : PipelineDocument}
    {version : Version}
    {next : Except (CallError StoreError) Version → Program (Except RegistryError Reply)}
    (leads : Program.Leads (command.operation context).run before
      (.ask (.store bound (.update key written version)) next)) :
    ∃ edit, command = .edit edit ∧ key = context.key ∧
      edit.Drafted context before written version := by
  have answered := leads.extend (.error (.interrupted .cancelled))
  obtain ⟨later, result, completed⟩ := answered.exists_completion
  rw [List.append_assoc] at completed
  have yields : Operation.Yields (command.operation context) _ result := completed
  have member := List.mem_append_right before (List.mem_append_left later
    (List.mem_singleton_self
      (⟨.store bound (.update key written version), .error (.interrupted .cancelled)⟩ : Exchange)))
  cases command with
  | edit asked =>
      obtain ⟨outcome, edited, _⟩ := Operation.yields_map_iff.mp yields
      obtain ⟨sameKey, drafted⟩ := Edit.drafted_of_write edited rfl
      exact ⟨asked, rfl, sameKey, drafted⟩
  | read reading =>
      have impossible := Reading.isWrite_of_yields yields _ member
      cases impossible
  | createPipeline =>
      obtain ⟨answer, made, -⟩ := (makesOneCall_createPipeline context).yields yields
      rw [made] at member
      cases List.mem_singleton.mp member
  | deletePipeline =>
      obtain ⟨answer, made, -⟩ := (makesOneCall_deletePipeline context).yields yields
      rw [made] at member
      cases List.mem_singleton.mp member

end Command

end PipelineRegistry
