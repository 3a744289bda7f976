import PipelineRegistry.Proofs.Meaning
import PipelineRegistry.Proofs.Notices
import PipelineRegistry.Proofs.Rejections
import PipelineRegistry.Proofs.Requests
import PipelineRegistry.Proofs.Serving

/-!
# Statuses tell what has happened

Requests are served one after another over a store in memory. The status of each answer tells
what has become of the store: after success on a request that is to change a pipeline, the pipeline
is one step further, and after any other answer the store is what it was and the runtime has been
told of nothing.
-/

namespace PipelineRegistry

open Registry

/-! ## What is asked while a program is served -/

/-- The exchanges of a program that nobody disturbs. -/
def Program.transcript {α : Type} (surroundings : Surroundings) :
    Program α → Store → List Exchange
  | .done _, _ => []
  | .ask request next, store =>
      ⟨request, (surroundings.answer store request).1⟩ ::
        transcript surroundings (next (surroundings.answer store request).1)
          (surroundings.answer store request).2

namespace Program

variable {α β : Type} (surroundings : Surroundings)

theorem yields_transcript (program : Program α) (store : Store) :
    program.Yields (program.transcript surroundings store)
      (program.serve surroundings store).1 := by
  induction program generalizing store with
  | done result => exact Leads.refl _
  | ask request next inductionHypothesis => exact Leads.ask _ (inductionHypothesis _ _)

theorem transcript_bind (program : Program α) (next : α → Program β) (store : Store) :
    (program >>= next).transcript surroundings store =
      program.transcript surroundings store ++
        (next (program.serve surroundings store).1).transcript surroundings
          (program.serve surroundings store).2 := by
  induction program generalizing store with
  | done result => rfl
  | ask request continuation inductionHypothesis =>
      exact congrArg (List.cons _) (inductionHypothesis _ _)

theorem serve_map (change : α → β) (program : Program α) (store : Store) :
    (change <$> program).serve surroundings store =
      (change (program.serve surroundings store).1, (program.serve surroundings store).2) :=
  serve_bind surroundings program (fun value => done (change value)) store

theorem transcript_map (change : α → β) (program : Program α) (store : Store) :
    (change <$> program).transcript surroundings store =
      program.transcript surroundings store := by
  rw [← bind_pure_comp, transcript_bind]
  exact List.append_nil _

/-- Requests that leave the store as it is leave it so however many of them are made. -/
theorem AsksOnly.serve_store
    {allowed : Request → Prop} {program : Program α} (asks : AsksOnly allowed program)
    (idle : ∀ request, allowed request → ∀ store, (surroundings.answer store request).2 = store)
    (store : Store) :
    (program.serve surroundings store).2 = store := by
  induction asks with
  | done result => rfl
  | @ask request next here rest inductionHypothesis =>
      have still := idle request here store
      unfold serve
      rw [still]
      exact inductionHypothesis _

end Program

/-! ## Commands served alone -/

/-- The effect on the runtime that an exchange is to have. -/
def Exchange.effect? (exchange : Exchange) : Option SideEffect :=
  exchange.serviceCall?.bind ServiceCall.effect?

theorem Request.OfReading.effect?_eq_none
    {context : Context} {exchange : Exchange} (allowed : OfReading context exchange.request) :
    exchange.effect? = none := by
  obtain ⟨request, answer⟩ := exchange
  cases allowed with
  | load | probe selector | measure id => rfl

theorem Request.OfReading.answer_store
    {context : Context} {request : Request} (allowed : OfReading context request)
    (surroundings : Surroundings) (store : Store) :
    (surroundings.answer store request).2 = store := by
  cases allowed with
  | load | probe selector | measure id => rfl

/-- One step of a pipeline: what a command makes of what is stored under its key. -/
inductive Command.Steps (context : Context) (newId : String) :
    Command → Option Stored → Option Stored → Prop
  | created :
      Steps context newId .createPipeline none (some ⟨{}, 1⟩)
  | removed (stored : Stored) :
      Steps context newId .deletePipeline (some stored) none
  | changed {edit : Edit} {document written : PipelineDocument} {receipt : Receipt}
      (counter : Int) (checked : edit.check = .ok ())
      (change : edit.change context newId document = .ok (written, receipt)) :
      Steps context newId (.edit edit) (some ⟨document, counter⟩) (some ⟨written, counter + 1⟩)

/-- The addressed pipeline has made one step, and no other pipeline has changed. -/
structure Command.Advances (context : Context) (newId : String) (command : Command)
    (before after : Store) : Prop where
  step : command.Steps context newId (before.find? context.key) (after.find? context.key)
  others : ∀ key, key ≠ context.key → after.find? key = before.find? key

section Commands

variable {surroundings : Surroundings} {store : Store} {context : Context} {command : Command}
  {error : RegistryError}

namespace Reading

theorem serve_store (surroundings : Surroundings) (store : Store) (context : Context)
    (reading : Reading) :
    ((reading.operation context).serve surroundings store).2 = store :=
  reading.asksOnly.serve_store surroundings
    (fun _ allowed => allowed.answer_store surroundings) store

theorem effect?_eq_none (reading : Reading) :
    ∀ exchange ∈ (reading.operation context).run.transcript surroundings store,
      exchange.effect? = none := by
  intro exchange member
  have yields := (reading.operation context).run.yields_transcript surroundings store
  exact ((reading.asksOnly.of_leads yields).1 exchange member).effect?_eq_none

end Reading

namespace Edit

variable {edit : Edit}

/-- An edit fails and leaves the store as it is, or it brings its pipeline one step further. -/
theorem serve_steps (surroundings : Surroundings) (store : Store) (context : Context)
    (edit : Edit) :
    (∃ error, (edit.operation context).serve surroundings store = (.error error, store)) ∨
    ∃ outcome document counter written receipt,
      store.find? context.key = some ⟨document, counter⟩ ∧ edit.check = .ok () ∧
      edit.change context surroundings.newId document = .ok (written, receipt) ∧
      (edit.operation context).serve surroundings store =
        (.ok outcome, store.after (.update context.key written (.ofCounter counter))) := by
  cases present : store.find? context.key with
  | none =>
      apply Or.inl
      cases checked : edit.check with
      | error error => exact ⟨error, serve_of_check_error checked⟩
      | ok passed =>
          have passed : (Operation.ofExcept edit.check).serve surroundings store =
              (.ok (), store) := by
            rw [checked]
            exact Operation.serve_ofExcept _
          have unread : (load context).serve surroundings store =
              (.error (.ofCall (.failed (.notFound context.key))), store) := by
            have answered : store.answer (.get context.key) =
                .error (.failed (.notFound context.key)) := by
              apply Store.answer_of_error
              simp [Simulation.perform, Store.get, present]
            unfold load
            rw [Operation.serve_request_bind]
            simp only [Surroundings.answer, answered]
            rfl
          obtain ⟨id, named, -⟩ := serve_nameNew surroundings store context edit
          rw [operation_eq, perform, Operation.serve_bind_of_ok passed,
            Operation.serve_bind_of_ok named]
          have stopped : (mutate context edit.mutation (edit.change context id)).serve
              surroundings store =
                (.error (.ofCall (.failed (.notFound context.key))), store) := by
            unfold mutate
            rw [attempt_eq]
            exact Operation.serve_bind_of_error unread
          exact ⟨_, Operation.serve_bind_of_error stopped⟩
  | some stored =>
      obtain ⟨document, counter⟩ := stored
      rcases serve_cases present with
        ⟨error, -, served⟩ | ⟨-, error, -, served⟩ | ⟨checked, written, receipt, changed, served⟩
      · exact Or.inl ⟨error, served⟩
      · exact Or.inl ⟨error, served⟩
      · exact Or.inr ⟨_, document, counter, written, receipt, rfl, checked, changed, served⟩

end Edit

namespace Command

/-- A command of one call has the effect of the call, which is none if the call fails. -/
theorem MakesOneCall.serve
    {call : StoreCall} {reply : call.Answer → Reply}
    (makes : command.MakesOneCall context call reply) (surroundings : Surroundings)
    (store : Store) :
    (∃ error, (command.operation context).serve surroundings store = (.error error, store)) ∨
      ∃ answer, store.answer call = .ok answer ∧
        (command.operation context).serve surroundings store =
          (.ok (reply answer), store.after call) := by
  have served : (command.operation context).serve surroundings store =
      (((store.answer call).map reply).mapError .ofCall, store.after call) := by
    unfold Operation.serve
    rw [makes]
    rfl
  cases answered : store.answer call with
  | error failure =>
      rw [answered, Store.after_of_answer_error answered] at served
      exact Or.inl ⟨_, served⟩
  | ok answer =>
      rw [answered] at served
      exact Or.inr ⟨answer, rfl, served⟩

theorem Steps.advances
    {newId : String} {before after : Store} {stored? : Option Stored}
    (step : command.Steps context newId (before.find? context.key) stored?)
    (found : ∀ key, after.find? key = if key = context.key then stored? else before.find? key) :
    command.Advances context newId before after where
  step := by
    rw [found context.key, if_pos rfl]
    exact step
  others := by
    intro key other
    rw [found key, if_neg other]

/-- A command fails and leaves the store as it is, or it is a reading, or it brings its pipeline
one step further. -/
theorem serve_cases (surroundings : Surroundings) (store : Store) (context : Context)
    (command : Command) :
    (∃ error, (command.operation context).serve surroundings store = (.error error, store)) ∨
    ∃ reply after,
      (command.operation context).serve surroundings store = (.ok reply, after) ∧
      ((∃ reading, command = .read reading ∧ after = store) ∨
        command.Advances context surroundings.newId store after) := by
  cases command with
  | read reading =>
      have still := reading.serve_store surroundings store context
      rcases served : (reading.operation context).serve surroundings store with
        ⟨error | reply, after⟩
      · rw [served] at still
        subst still
        exact Or.inl ⟨error, served⟩
      · rw [served] at still
        exact Or.inr ⟨reply, after, served, Or.inl ⟨reading, rfl, still⟩⟩
  | edit edit =>
      have mapped : ((Command.edit edit).operation context).serve surroundings store =
          (((edit.operation context).serve surroundings store).1.map Reply.outcome,
            ((edit.operation context).serve surroundings store).2) :=
        Operation.serve_map _ _
      rcases edit.serve_steps surroundings store context with
        ⟨error, served⟩ |
        ⟨outcome, document, counter, written, receipt, present, checked, changed, served⟩
      · rw [served] at mapped
        exact Or.inl ⟨error, mapped⟩
      · rw [served] at mapped
        have step := Steps.changed counter checked changed
        rw [← present] at step
        exact Or.inr ⟨_, _, mapped, Or.inr <| step.advances fun key =>
          Store.find?_after_update written key present rfl⟩
  | createPipeline =>
      rcases (makesOneCall_createPipeline context).serve surroundings store with
        served | ⟨version, answered, served⟩
      · exact Or.inl served
      · have absent := (Store.answer_create_eq_ok_iff.mp answered).1
        have step : Steps context surroundings.newId .createPipeline none _ := Steps.created
        rw [← absent] at step
        exact Or.inr ⟨_, _, served, Or.inr <| step.advances fun key =>
          Store.find?_after_create key absent⟩
  | deletePipeline =>
      rcases (makesOneCall_deletePipeline context).serve surroundings store with
        served | ⟨done, answered, served⟩
      · exact Or.inl served
      · obtain ⟨stored, present⟩ := Store.answer_delete_eq_ok_iff.mp answered
        have step : Steps context surroundings.newId .deletePipeline (some stored) none :=
          Steps.removed stored
        rw [← present] at step
        exact Or.inr ⟨_, _, served, Or.inr <| step.advances fun key =>
          store.find?_after_delete context.key key⟩

/-- A command that fails has told the runtime of nothing. -/
theorem effect?_eq_none_of_error
    (failed : ((command.operation context).serve surroundings store).1 = .error error) :
    ∀ exchange ∈ (command.operation context).run.transcript surroundings store,
      exchange.effect? = none := by
  have yields := (command.operation context).run.yields_transcript surroundings store
  change Operation.Yields (command.operation context) _
    ((command.operation context).serve surroundings store).1 at yields
  rw [failed] at yields
  intro exchange member
  cases command with
  | read reading => exact reading.effect?_eq_none exchange member
  | edit edit =>
      obtain ⟨result, edited, same⟩ := Operation.yields_map_iff.mp yields
      cases result with
      | ok outcome => cases same
      | error failure =>
          unfold Exchange.effect?
          rw [Edit.serviceCall?_eq_none_of_error edited exchange member]
          rfl
  | createPipeline =>
      obtain ⟨answer, made, -⟩ := (makesOneCall_createPipeline context).yields yields
      rw [made] at member
      rw [List.mem_singleton.mp member]
      rfl
  | deletePipeline =>
      obtain ⟨answer, made, -⟩ := (makesOneCall_deletePipeline context).yields yields
      rw [made] at member
      rw [List.mem_singleton.mp member]
      rfl

end Command

end Commands

/-! ## Visits to a server -/

namespace Http

/-- A request, and what is not decided by the store while it is served. -/
structure Visit where
  request : Request
  surroundings : Surroundings

/-- What became of a visit. -/
structure Visited extends Visit where
  before : Store
  transcript : List Exchange
  response : Response
  after : Store

def Visit.serve (settings : ServerSettings) (visit : Visit) (store : Store) : Visited where
  toVisit := visit
  before := store
  transcript := (Http.serve settings visit.request).transcript visit.surroundings store
  response := ((Http.serve settings visit.request).serve visit.surroundings store).1
  after := ((Http.serve settings visit.request).serve visit.surroundings store).2

/-- Visits one after the other, each to the store that the last one has left. -/
def visitAll (settings : ServerSettings) : Store → List Visit → List Visited
  | _, [] => []
  | store, visit :: later =>
      visit.serve settings store :: visitAll settings (visit.serve settings store).after later

/-- A request with this method changes what the route addresses. -/
def Route.mutates : Route → Method → Bool
  | .pipeline _, .put | .pipeline _, .delete => true
  | .collection _ _, .post => true
  | .entity _ _ _, .put | .entity _ _ _, .delete => true
  | _, _ => false

def Route.key? : Route → Option EncodedKey
  | .greeting _ => none
  | .pipeline key | .collection key _ | .entity key _ _ => some key

/-- The path of the request names a pipeline. -/
def Request.Addresses (request : Request) (key : PipelineKey) : Prop :=
  ∃ route encoded, Route.ofPath? request.target.path = some route ∧
    route.key? = some encoded ∧ readKey encoded = .ok key

/-- The request is one that is to change a pipeline. -/
def Request.mutates (request : Request) : Bool :=
  match Route.ofPath? request.target.path with
  | some route => route.mutates request.method
  | none => false

/-- The status and the type by which clients are told of an error. -/
def announced : ErrorKind → Status × String
  | .validation => (⟨400⟩, "validation_error")
  | .notFound => (⟨404⟩, "not_found")
  | .conflict => (⟨409⟩, "conflict")
  | .dependencyFailure => (⟨503⟩, "dependency_failure")
  | .internal => (⟨500⟩, "internal_error")

/-- A response says of what type an error is, with a text. Without content there is the status
alone. -/
structure Request.IsTold (request : Request) (response : Response) (status : Status)
    (type detail : String) : Prop where
  status : response.status = status
  content : request.method ≠ .head →
    response.content = .json (.record [("type", .text type), ("detail", .text detail)])

/-- What a status tells of a visit. -/
structure Visited.Truthful (settings : ServerSettings) (visited : Visited) : Prop where
  changed : visited.request.mutates = true → visited.response.status.isSuccess = true →
    ∃ context command, visited.request.meaning settings = .command context command ∧
      visited.request.Addresses context.key ∧
      command.Advances context visited.surroundings.newId visited.before visited.after
  unchanged : ¬(visited.request.mutates = true ∧ visited.response.status.isSuccess = true) →
    visited.after = visited.before ∧ ∀ exchange ∈ visited.transcript, exchange.effect? = none
  reading : visited.request.method = .get → visited.after = visited.before
  refused : ∀ context command error,
    visited.request.meaning settings = .command context command →
    ((command.operation context).serve visited.surroundings visited.before).1 = .error error →
      visited.request.IsTold visited.response (announced error.kind).1 (announced error.kind).2
        error.message
  malformed : ∀ cause, visited.request.meaning settings = .malformed cause →
    visited.request.IsTold visited.response ⟨400⟩ "malformed_payload" cause.message

/-! ### Requests that stand for commands -/

def Command.reads : Command → Bool
  | .read _ => true
  | _ => false

/-- A command is about the pipeline that the path names, and it reads just if its request is none
that is to change something. -/
theorem reads_of_understood
    {settings : ServerSettings} {request : Request} {route : Route} {method : Method}
    {context : Context} {command : Command}
    (meant : understood settings request route method = some (.ok (context, command))) :
    Command.reads command = (!route.mutates method) ∧
      ∃ encoded, route.key? = some encoded ∧ readKey encoded = .ok context.key := by
  cases route with
  | greeting path => cases meant
  | pipeline key =>
      cases method with
      | put | get | delete =>
          simp only [understood, Option.some.injEq, Except.bind_eq_ok_iff] at meant
          obtain ⟨_, read, same⟩ := meant
          cases same
          exact ⟨rfl, _, rfl, read⟩
      | head | post | named _ => cases meant
  | collection key which =>
      cases method with
      | post =>
          simp only [understood, Option.some.injEq, Except.bind_eq_ok_iff] at meant
          obtain ⟨_, read, _, -, same⟩ := meant
          cases same
          exact ⟨rfl, _, rfl, read⟩
      | get =>
          simp only [understood, Option.some.injEq, Except.bind_eq_ok_iff] at meant
          obtain ⟨_, read, same⟩ := meant
          cases same
          exact ⟨rfl, _, rfl, read⟩
      | head | put | delete | named _ => cases meant
  | entity key which id =>
      cases method with
      | get =>
          simp only [understood, Option.some.injEq, Except.bind_eq_ok_iff] at meant
          obtain ⟨_, read, _, -, same⟩ := meant
          cases same
          exact ⟨rfl, _, rfl, read⟩
      | put | delete =>
          simp only [understood, Option.some.injEq, Except.bind_eq_ok_iff] at meant
          obtain ⟨_, read, _, -, _, -, same⟩ := meant
          cases same
          exact ⟨rfl, _, rfl, read⟩
      | head | post | named _ => cases meant

theorem understood_of_ofUnderstood
    {understood : Option (Except Malformation (Context × Command))} {context : Context}
    {command : Command} (meant : Meaning.ofUnderstood understood = .command context command) :
    understood = some (.ok (context, command)) := by
  rcases understood with _ | cause | ⟨_, _⟩
  · cases meant
  · cases meant
  · cases meant
    rfl

theorem ofUnderstood_ne_greeting
    {understood : Option (Except Malformation (Context × Command))} :
    Meaning.ofUnderstood understood ≠ .greeting := by
  intro meant
  rcases understood with _ | cause | ⟨_, _⟩
  · cases meant
  · cases meant
  · cases meant

theorem Request.mutates_asked (request : Request) (route : Route) :
    route.mutates request.asked = route.mutates request.method := by
  unfold asked
  by_cases head : request.method = .head
  · rw [if_pos head, head]
    cases route with
    | greeting _ | pipeline _ | collection _ _ | entity _ _ _ => rfl
  · rw [if_neg head]

theorem Request.mutates_of_meaning
    {settings : ServerSettings} {request : Request} {context : Context} {command : Command}
    (meant : request.meaning settings = .command context command) :
    Command.reads command = (!request.mutates) ∧ request.Addresses context.key := by
  unfold meaning at meant
  unfold mutates Addresses
  cases found : Route.ofPath? request.target.path with
  | none =>
      rw [found] at meant
      cases meant
  | some route =>
      rw [found] at meant
      cases route with
      | greeting path =>
          by_cases asked : request.asked = .get
          · simp only [asked, ↓reduceIte] at meant
            cases meant
          · simp only [asked, ↓reduceIte] at meant
            cases meant
      | pipeline _ | collection _ _ | entity _ _ _ =>
          obtain ⟨reads, encoded, named, read⟩ :=
            reads_of_understood (understood_of_ofUnderstood meant)
          rw [request.mutates_asked] at reads
          exact ⟨reads, _, encoded, rfl, named, read⟩

theorem Request.mutates_of_greeting
    {settings : ServerSettings} {request : Request}
    (meant : request.meaning settings = .greeting) : request.mutates = false := by
  unfold meaning at meant
  unfold mutates
  cases found : Route.ofPath? request.target.path with
  | none => rfl
  | some route =>
      rw [found] at meant
      cases route with
      | greeting path => rfl
      | pipeline _ | collection _ _ | entity _ _ _ => exact absurd meant ofUnderstood_ne_greeting

/-! ### Serving a visit -/

theorem serve_eq (settings : ServerSettings) (request : Request) :
    Http.serve settings request = (do
      let response ← request.trim <$> (request.meaning settings).answer
      Program.request (.count (.httpRequests request.method.name (pathLabel request.target.path)
        response.status))
      return response) := by
  rw [← answer_eq]
  rfl

theorem Visit.serve_response
    (settings : ServerSettings) (visit : Visit) (store : Store) :
    (visit.serve settings store).response = visit.request.trim
        ((visit.request.meaning settings).answer.serve visit.surroundings store).1 ∧
      (visit.serve settings store).after =
        ((visit.request.meaning settings).answer.serve visit.surroundings store).2 ∧
      ∀ exchange ∈ (visit.serve settings store).transcript,
        exchange ∈ (visit.request.meaning settings).answer.transcript visit.surroundings store ∨
          exchange.effect? = none := by
  unfold Visit.serve
  rw [serve_eq]
  refine ⟨?_, ?_, ?_⟩
  · change (Program.serve visit.surroundings (Program.bind _ _) store).1 = _
    rw [Program.serve_bind, Program.serve_map]
    rfl
  · change (Program.serve visit.surroundings (Program.bind _ _) store).2 = _
    rw [Program.serve_bind, Program.serve_map]
    rfl
  · intro exchange member
    simp only [Program.transcript_bind, Program.transcript_map, List.mem_append] at member
    rcases member with member | member | member
    · exact Or.inl member
    · rw [List.mem_singleton.mp member]
      exact Or.inr rfl
    · cases member

theorem Request.status_trim (request : Request) (response : Response) :
    (request.trim response).status = response.status := by
  unfold trim
  split
  · rfl
  · rfl

theorem Request.isTold_refusal (request : Request) (refusal : Refusal) :
    request.IsTold (request.trim refusal.response) refusal.status refusal.type
      refusal.detail := by
  refine ⟨request.status_trim _, fun whole => ?_⟩
  unfold trim
  rw [if_neg whole]
  rfl

/-- Where the registry is not asked, nothing changes. -/
theorem Visit.truthful_of_unasked
    {settings : ServerSettings} {visit : Visit} {plain : Response}
    (answers : (visit.request.meaning settings).answer = .done plain)
    (unasked : ∀ context command,
      visit.request.meaning settings ≠ .command context command)
    (quiet : visit.request.mutates = true → plain.status.isSuccess = false)
    (malformed : ∀ cause, visit.request.meaning settings = .malformed cause →
      plain = (Refusal.malformed cause).response) (store : Store) :
    (visit.serve settings store).Truthful settings := by
  obtain ⟨response, after, transcript⟩ := visit.serve_response settings store
  rw [answers] at response after transcript
  refine ⟨?_, ?_, fun _ => after, ?_, ?_⟩
  · intro mutates success
    rw [response, visit.request.status_trim] at success
    cases (quiet mutates).symm.trans success
  · intro _
    refine ⟨after, fun exchange member => ?_⟩
    rcases transcript exchange member with impossible | silent
    · cases impossible
    · exact silent
  · intro context command error meant
    exact absurd meant (unasked context command)
  · intro cause meant
    rw [response, malformed cause meant]
    exact visit.request.isTold_refusal _

theorem isSuccess_successStatus (command : Command) :
    (successStatus command).isSuccess = true := by
  cases command with
  | edit edit =>
      cases creates : edit.isCreation with
      | true | false => simp [successStatus, creates, Status.isSuccess]
  | read _ | createPipeline | deletePipeline => rfl

theorem not_isSuccess_statusOf (kind : ErrorKind) :
    (Refusal.statusOf kind).isSuccess = false := by
  cases kind with
  | validation | notFound | conflict | dependencyFailure | internal => rfl

theorem announced_eq (kind : ErrorKind) :
    announced kind = (Refusal.statusOf kind, Refusal.typeOf kind) := by
  cases kind with
  | validation | notFound | conflict | dependencyFailure | internal => rfl

theorem Command.reads_of_steps
    {context : Context} {newId : String} {command : PipelineRegistry.Command}
    {before after : Option Stored} (steps : command.Steps context newId before after) :
    reads command = false := by
  cases steps with
  | created | removed stored | changed counter checked change => rfl

theorem Request.mutates_of_get {request : Request} (get : request.method = .get) :
    request.mutates = false := by
  unfold mutates
  cases Route.ofPath? request.target.path with
  | none => rfl
  | some route =>
      rw [get]
      cases route with
      | greeting _ | pipeline _ | collection _ _ | entity _ _ _ => rfl

section Asked

variable {settings : ServerSettings} {visit : Visit} {context : Context} {command : Command}
  {store : Store}

theorem Visit.serve_command
    (meant : visit.request.meaning settings = .command context command) (store : Store) :
    (visit.serve settings store).response = visit.request.trim (respondTo command
        ((command.operation context).serve visit.surroundings store).1) ∧
      (visit.serve settings store).after =
        ((command.operation context).serve visit.surroundings store).2 ∧
      ∀ exchange ∈ (visit.serve settings store).transcript,
        exchange ∈ (command.operation context).run.transcript visit.surroundings store ∨
          exchange.effect? = none := by
  obtain ⟨response, after, transcript⟩ := visit.serve_response settings store
  have answered : (Meaning.command context command).answer =
      respondTo command <$> (command.operation context).run :=
    bind_pure_comp _ _
  rw [meant, answered] at response after transcript
  rw [Program.serve_map] at response after
  rw [Program.transcript_map] at transcript
  exact ⟨response, after, transcript⟩

/-- When the command fails, the store is what it was and the error is announced. -/
theorem Visit.truthful_of_failed
    {error : RegistryError}
    (meant : visit.request.meaning settings = .command context command)
    (failed : (command.operation context).serve visit.surroundings store = (.error error, store)) :
    (visit.serve settings store).Truthful settings := by
  obtain ⟨response, after, transcript⟩ := visit.serve_command meant store
  rw [failed] at response after
  have told := visit.request.isTold_refusal (.registry error)
  refine ⟨?_, ?_, fun _ => after, ?_, ?_⟩
  · intro _ success
    rw [response, visit.request.status_trim] at success
    cases (not_isSuccess_statusOf error.kind).symm.trans success
  · intro _
    refine ⟨after, fun exchange member => ?_⟩
    rcases transcript exchange member with asked | silent
    · exact Command.effect?_eq_none_of_error (congrArg Prod.fst failed) exchange asked
    · exact silent
  · intro other otherCommand otherError alsoMeant alsoFailed
    cases meant.symm.trans alsoMeant
    have same := (congrArg Prod.fst failed).symm.trans alsoFailed
    cases same
    rw [announced_eq, response]
    exact told
  · intro cause malformed
    cases meant.symm.trans malformed

/-- When the command succeeds, it has done what it is there for. -/
theorem Visit.truthful_of_done
    {reply : Reply} {left : Store}
    (meant : visit.request.meaning settings = .command context command)
    (served : (command.operation context).serve visit.surroundings store = (.ok reply, left))
    (done : (∃ reading, command = .read reading ∧ left = store) ∨
      command.Advances context visit.surroundings.newId store left) :
    (visit.serve settings store).Truthful settings := by
  obtain ⟨reads, addresses⟩ := Request.mutates_of_meaning meant
  obtain ⟨response, after, transcript⟩ := visit.serve_command meant store
  rw [served] at response after
  have success : (visit.serve settings store).response.status.isSuccess = true := by
    rw [response, visit.request.status_trim]
    exact isSuccess_successStatus command
  have idle (other : visit.request.mutates = false) :
      ∃ reading, command = .read reading ∧ left = store := by
    rcases done with read | advances
    · exact read
    · rw [other, Command.reads_of_steps advances.step] at reads
      cases reads
  refine ⟨?_, ?_, ?_, ?_, ?_⟩
  · intro mutates _
    refine ⟨context, command, meant, addresses, ?_⟩
    rw [after]
    rcases done with ⟨reading, rfl, -⟩ | advances
    · have impossible : visit.request.mutates = true := mutates
      rw [impossible] at reads
      cases reads
    · exact advances
  · intro other
    have unchanging : visit.request.mutates = false := by
      cases mutates : visit.request.mutates with
      | false => rfl
      | true => exact absurd ⟨mutates, success⟩ other
    obtain ⟨reading, rfl, rfl⟩ := idle unchanging
    refine ⟨after, fun exchange member => ?_⟩
    rcases transcript exchange member with asked | silent
    · exact reading.effect?_eq_none exchange asked
    · exact silent
  · intro get
    obtain ⟨_, -, rfl⟩ := idle (Request.mutates_of_get get)
    exact after
  · intro other otherCommand error alsoMeant failed
    cases meant.symm.trans alsoMeant
    cases (congrArg Prod.fst served).symm.trans failed
  · intro cause malformed
    cases meant.symm.trans malformed

end Asked

/-- Whoever visits is told the truth. -/
theorem Visit.truthful_serve (settings : ServerSettings) (visit : Visit) (store : Store) :
    (visit.serve settings store).Truthful settings := by
  cases meant : visit.request.meaning settings with
  | unrouted | unsupported =>
      exact truthful_of_unasked (by rw [meant]; rfl) (by simp [meant]) (fun _ => rfl)
        (by simp [meant]) store
  | greeting =>
      have quiet := Request.mutates_of_greeting meant
      exact truthful_of_unasked (by rw [meant]; rfl) (by simp [meant]) (by simp [quiet])
        (by simp [meant]) store
  | malformed cause =>
      refine truthful_of_unasked (by rw [meant]; rfl) (by simp [meant]) (fun _ => rfl) ?_ store
      intro other same
      cases meant.symm.trans same
      rfl
  | command context command =>
      rcases Command.serve_cases visit.surroundings store context command with
        ⟨error, failed⟩ | ⟨reply, left, served, done⟩
      · exact truthful_of_failed meant failed
      · exact truthful_of_done meant served done

/-- After each of the requests, its status tells what has become of the store. -/
theorem statuses_tell_the_truth
    (settings : ServerSettings) (initial : Store) (visits : List Visit) :
    ∀ visited ∈ visitAll settings initial visits, visited.Truthful settings := by
  induction visits generalizing initial with
  | nil => simp [visitAll]
  | cons visit later inductionHypothesis =>
      intro visited member
      rcases List.mem_cons.mp member with rfl | member
      · exact visit.truthful_serve settings initial
      · exact inductionHypothesis _ visited member

/-! ### Three visits

A pipeline is stored, a source that it does not have is to be removed, and the pipeline is removed
again. The runtime never answers in time.
-/

namespace ThreeVisits

def settings : ServerSettings :=
  ⟨{}, 1000⟩

def visit (method : Method) (address : String) : Visit where
  request := ⟨method, .ofText address, none, []⟩
  surroundings := ⟨"n", fun _ => .error (.interrupted (.timedOut (.ofSeconds 5)))⟩

def visits : List Visit :=
  [visit .put "/pipelines/default/sales",
    visit .delete "/pipelines/default/sales/extract-sources/s?cascade=true",
    visit .delete "/pipelines/default/sales"]

theorem statuses :
    (visitAll settings {} visits).map (fun visited => visited.response.status.code) =
      [201, 404, 204] := by
  decide +kernel

end ThreeVisits

theorem statuses_tell_the_truth_threeVisits :
    (visitAll ThreeVisits.settings {} ThreeVisits.visits).map
        (fun visited => visited.response.status.code) = [201, 404, 204] ∧
      ∃ visited ∈ visitAll ThreeVisits.settings {} ThreeVisits.visits,
        visited.request.mutates = true ∧ visited.Truthful ThreeVisits.settings := by
  have first : (ThreeVisits.visit .put "/pipelines/default/sales").serve ThreeVisits.settings {} ∈
      visitAll ThreeVisits.settings {} ThreeVisits.visits :=
    List.mem_cons_self
  exact ⟨ThreeVisits.statuses, _, first, by decide +kernel,
    statuses_tell_the_truth ThreeVisits.settings {} ThreeVisits.visits _ first⟩

end Http

end PipelineRegistry
