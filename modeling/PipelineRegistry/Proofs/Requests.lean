import PipelineRegistry.Proofs.Command

/-!
# Requests of programs

What a program asks of its surroundings, whatever it is answered. Readings load the document and may
ask services about a source; edits load, write and read again, wait, count and make notices. From
these lists follows `Command.concerns`: no command makes a call that names another pipeline than its
own.
-/

namespace PipelineRegistry

open Registry

/-! ## Programs that keep to allowed requests -/

namespace Program

variable {α β : Type} {allowed : Request → Prop}

/-- A program makes allowed requests only, however they are answered. -/
inductive AsksOnly (allowed : Request → Prop) : Program α → Prop
  | done (result : α) :
      AsksOnly allowed (.done result)
  | ask {request : Request} {next : request.Answer → Program α}
      (here : allowed request) (rest : ∀ answer, AsksOnly allowed (next answer)) :
      AsksOnly allowed (.ask request next)

theorem AsksOnly.bind
    {program : Program α} {next : α → Program β}
    (first : AsksOnly allowed program) (second : ∀ value, AsksOnly allowed (next value)) :
    AsksOnly allowed (Program.bind program next) := by
  induction first with
  | done result => exact second result
  | ask here _ inductionHypothesis => exact AsksOnly.ask here inductionHypothesis

theorem AsksOnly.mono
    {wider : Request → Prop} {program : Program α}
    (asks : AsksOnly allowed program) (implies : ∀ request, allowed request → wider request) :
    AsksOnly wider program := by
  induction asks with
  | done result => exact AsksOnly.done result
  | ask here _ inductionHypothesis => exact AsksOnly.ask (implies _ here) inductionHypothesis

/-- What is left of a program keeps to the requests that the program keeps to. -/
theorem AsksOnly.of_leads
    {program rest : Program α} {history : List Exchange}
    (asks : AsksOnly allowed program) (leads : Leads program history rest) :
    (∀ exchange ∈ history, allowed exchange.request) ∧ AsksOnly allowed rest := by
  induction leads with
  | refl program => exact ⟨by simp, asks⟩
  | ask answer _ inductionHypothesis =>
      cases asks with
      | ask here behind =>
          obtain ⟨made, remaining⟩ := inductionHypothesis (behind answer)
          exact ⟨List.forall_mem_cons.mpr ⟨here, made⟩, remaining⟩

end Program

namespace Operation

variable {α β : Type} {allowed : Request → Prop}

def AsksOnly (allowed : Request → Prop) (operation : Operation α) : Prop :=
  Program.AsksOnly allowed operation.run

theorem asksOnly_pure (value : α) : AsksOnly allowed (pure value) :=
  Program.AsksOnly.done _

theorem asksOnly_throw (error : RegistryError) :
    AsksOnly allowed (throw error : Operation α) :=
  Program.AsksOnly.done _

theorem asksOnly_ofExcept (checked : Except RegistryError α) :
    AsksOnly allowed (ofExcept checked) :=
  Program.AsksOnly.done _

theorem asksOnly_request {asked : Request} (here : allowed asked) :
    AsksOnly allowed (request asked) :=
  Program.AsksOnly.ask here fun _ => Program.AsksOnly.done _

theorem asksOnly_request_bind
    {asked : Request} {next : asked.Answer → Operation β}
    (here : allowed asked) (rest : ∀ answer, AsksOnly allowed (next answer)) :
    AsksOnly allowed (request asked >>= next) :=
  Program.AsksOnly.ask here rest

theorem AsksOnly.bind
    {operation : Operation α} {next : α → Operation β}
    (first : AsksOnly allowed operation) (second : ∀ value, AsksOnly allowed (next value)) :
    AsksOnly allowed (operation >>= next) := by
  apply Program.AsksOnly.bind first
  intro result
  cases result with
  | error error => exact Program.AsksOnly.done _
  | ok value => exact second value

theorem AsksOnly.map
    {operation : Operation α} (asks : AsksOnly allowed operation) (change : α → β) :
    AsksOnly allowed (change <$> operation) := by
  rw [← bind_pure_comp]
  exact asks.bind fun value => asksOnly_pure (change value)

end Operation

/-! ## What operations ask -/

namespace Request

/-- The requests that a reading may make. -/
inductive OfReading (context : Context) : Request → Prop
  | load :
      OfReading context (.store context.settings.bound (.get context.key))
  | probe (selector : String) :
      OfReading context (.service context.settings.bound (.workerActive context.key selector))
  | measure (id : String) :
      OfReading context (.service context.settings.bound (.sourceMetrics id))

/-- The requests that an edit may make. -/
inductive OfEdit (context : Context) : Request → Prop
  | name :
      OfEdit context .freshId
  | load :
      OfEdit context (.store context.settings.bound (.get context.key))
  | write (document : PipelineDocument) (expected : Version) :
      OfEdit context (.store context.settings.bound (.update context.key document expected))
  | reread :
      OfEdit context (.store context.settings.unheedingBound (.get context.key))
  | pause (duration : Duration) :
      OfEdit context (.pause duration)
  | count (counter : Counter) :
      OfEdit context (.count counter)
  | refresh :
      OfEdit context (.service context.settings.bound (.refreshSources context.key))
  | terminate (selector : String) :
      OfEdit context (.service context.settings.bound (.terminateWorkers context.key selector))

end Request

variable {α : Type} {context : Context}

theorem asksOnly_load
    {allowed : Request → Prop}
    (here : allowed (.store context.settings.bound (.get context.key))) :
    (load context).AsksOnly allowed := by
  apply Operation.asksOnly_request_bind here
  intro answer
  cases answer with
  | error failure => exact Operation.asksOnly_throw _
  | ok loaded => exact Operation.asksOnly_pure _

/-! ### Readings -/

namespace Reading

theorem asksOnly_inspect (look : PipelineDocument → Except RegistryError α) :
    (inspect context look).AsksOnly (Request.OfReading context) :=
  (asksOnly_load .load).bind fun _ => Operation.asksOnly_ofExcept _

theorem asksOnly_probeWorkers (sourceName : String) :
    (probeWorkers context sourceName).AsksOnly (Request.OfReading context) := by
  apply Operation.asksOnly_request_bind (.probe _)
  intro answer
  cases answer with
  | error failure => exact Operation.asksOnly_pure _
  | ok active => exact Operation.asksOnly_pure _

theorem asksOnly_measureSource (id : String) :
    (measureSource context id).AsksOnly (Request.OfReading context) := by
  unfold measureSource
  split
  · apply Operation.asksOnly_request_bind (.measure id)
    intro answer
    cases answer with
    | error failure => exact Operation.asksOnly_pure _
    | ok metrics => exact Operation.asksOnly_pure _
  · exact Operation.asksOnly_pure _

theorem asksOnly_getSource (id : String) :
    (Registry.getSource context id).AsksOnly (Request.OfReading context) := by
  refine (asksOnly_inspect _).bind fun detail => ?_
  have measured (workerActive : Option Bool) :
      (do
        let metrics ← measureSource context id
        return { detail with workerActive := workerActive, metrics := metrics } :
        Operation ExtractSourceDetail).AsksOnly (Request.OfReading context) :=
    (asksOnly_measureSource id).bind fun _ => Operation.asksOnly_pure _
  by_cases isApi : detail.source.scheme = some .api
  · rw [if_pos isApi]
    exact (asksOnly_probeWorkers _).bind measured
  · rw [if_neg isApi]
    exact (Operation.asksOnly_pure _).bind measured

theorem asksOnly (reading : Reading) :
    (reading.operation context).AsksOnly (Request.OfReading context) := by
  cases reading with
  | getSource id => exact (asksOnly_getSource id).map _
  | getPipeline =>
      have read : (Registry.getPipeline context).AsksOnly (Request.OfReading context) :=
        (asksOnly_load .load).bind fun _ => Operation.asksOnly_pure _
      exact read.map _
  | _ => exact (asksOnly_inspect _).map _

end Reading

/-! ### Edits -/

namespace Edit

theorem asksOnly_count (counter : Counter) :
    (Registry.count counter).AsksOnly (Request.OfEdit context) :=
  Operation.asksOnly_request (.count counter)

theorem asksOnly_settle
    (mutation : Mutation) (written : PipelineDocument) (output : α) (cause : Interruption) :
    (settle context mutation written output cause).AsksOnly (Request.OfEdit context) := by
  have reread : (writeLanded context written).AsksOnly (Request.OfEdit context) := by
    apply Operation.asksOnly_request_bind .reread
    intro answer
    cases answer with
    | error failure => exact Operation.asksOnly_pure _
    | ok stored => exact Operation.asksOnly_pure _
  unfold settle
  refine reread.bind fun landed => ?_
  cases landed with
  | true => exact (asksOnly_count _).bind fun _ => Operation.asksOnly_pure _
  | false => exact (asksOnly_count _).bind fun _ => Operation.asksOnly_throw _

theorem asksOnly_attempt_of_retry
    {mutation : Mutation} {change : Change α} {number remaining : Nat}
    (retried :
      (retry context mutation change number remaining).AsksOnly (Request.OfEdit context)) :
    (attempt context mutation change number remaining).AsksOnly (Request.OfEdit context) := by
  rw [attempt_eq]
  refine (asksOnly_load .load).bind fun loaded => ?_
  refine (Operation.asksOnly_ofExcept _).bind fun drafted => ?_
  apply Operation.asksOnly_request_bind (.write _ _)
  intro answer
  rcases answer with (error | cause) | later
  · cases error with
    | conflict key expected => exact retried
    | _ => exact Operation.asksOnly_throw _
  · exact asksOnly_settle _ _ _ cause
  · exact (asksOnly_count _).bind fun _ => Operation.asksOnly_pure _

theorem asksOnly_attempt
    (mutation : Mutation) (change : Change α) (number remaining : Nat) :
    (attempt context mutation change number remaining).AsksOnly (Request.OfEdit context) := by
  induction remaining generalizing number with
  | zero =>
      apply asksOnly_attempt_of_retry
      exact (asksOnly_count _).bind fun _ => Operation.asksOnly_throw _
  | succ fewer inductionHypothesis =>
      apply asksOnly_attempt_of_retry
      refine (asksOnly_count _).bind fun _ => ?_
      apply Operation.asksOnly_request_bind (.pause _)
      intro waited
      cases waited with
      | true => exact inductionHypothesis (number + 1)
      | false => exact Operation.asksOnly_throw _

theorem asksOnly_mutate (mutation : Mutation) (change : Change α) :
    (mutate context mutation change).AsksOnly (Request.OfEdit context) :=
  asksOnly_attempt mutation change 1 _

theorem asksOnly_notify
    {effect : SideEffect} {call : ServiceCall}
    (allowed : Request.OfEdit context (.service context.settings.bound call)) :
    (notify context effect call).AsksOnly (Request.OfEdit context) := by
  apply Operation.asksOnly_request_bind allowed
  intro answer
  cases answer with
  | error failure => exact (asksOnly_count _).bind fun _ => Operation.asksOnly_pure _
  | ok done => exact Operation.asksOnly_pure _

theorem asksOnly_sourceRemoved (sourceName : String) :
    (sourceRemoved context sourceName).AsksOnly (Request.OfEdit context) := by
  refine (asksOnly_notify .refresh).bind fun _ => ?_
  exact (asksOnly_notify (.terminate _)).bind fun _ => Operation.asksOnly_pure _

theorem asksOnly (edit : Edit) :
    (edit.operation context).AsksOnly (Request.OfEdit context) := by
  cases edit with
  | createSource source =>
      refine (Operation.asksOnly_ofExcept _).bind fun _ => ?_
      apply Operation.asksOnly_request_bind .name
      intro id
      refine (asksOnly_mutate _ _).bind fun _ => ?_
      exact (asksOnly_notify .refresh).bind fun _ => Operation.asksOnly_pure _
  | updateSource id source =>
      refine (Operation.asksOnly_ofExcept _).bind fun _ => ?_
      refine (asksOnly_mutate _ _).bind fun _ => ?_
      exact (asksOnly_notify .refresh).bind fun _ => Operation.asksOnly_pure _
  | deleteSource id mode =>
      refine (asksOnly_mutate _ _).bind fun _ => ?_
      exact (asksOnly_sourceRemoved _).bind fun _ => Operation.asksOnly_pure _
  | createRule _ | createExtension _ | createFunction _ =>
      refine (Operation.asksOnly_ofExcept _).bind fun _ => ?_
      apply Operation.asksOnly_request_bind .name
      intro id
      exact (asksOnly_mutate _ _).bind fun _ => Operation.asksOnly_pure _
  | updateRule _ _ | updateExtension _ _ | updateFunction _ _ =>
      refine (Operation.asksOnly_ofExcept _).bind fun _ => ?_
      exact (asksOnly_mutate _ _).bind fun _ => Operation.asksOnly_pure _
  | deleteRule _ | deleteExtension _ | deleteFunction _ =>
      exact (asksOnly_mutate _ _).bind fun _ => Operation.asksOnly_pure _

end Edit

/-! ### Whole pipelines -/

theorem Command.MakesOneCall.asksOnly
    {call : StoreCall} {reply : call.Answer → Reply} {command : Command}
    {allowed : Request → Prop} (makes : command.MakesOneCall context call reply)
    (here : allowed (.store context.settings.bound call)) :
    (command.operation context).AsksOnly allowed := by
  unfold Operation.AsksOnly
  rw [makes]
  exact Program.AsksOnly.ask here fun _ => Program.AsksOnly.done _

/-! ## Requests that concern a pipeline -/

/-- The pipeline that a call to a service names. Metrics are asked for by the id
of a source alone. -/
def ServiceCall.key? : ServiceCall → Option PipelineKey
  | refreshSources key => some key
  | terminateWorkers key _ => some key
  | workerActive key _ => some key
  | sourceMetrics _ => none

/-- The pipelines that a request names are one and the same. -/
def Request.Concerns (key : PipelineKey) : Request → Prop
  | store _ call => Simulation.callKey call = key
  | service _ call => ∀ named, call.key? = some named → named = key
  | pause _ | freshId | count _ => True

theorem Request.OfReading.concerns
    {request : Request} (allowed : OfReading context request) :
    request.Concerns context.key := by
  cases allowed with
  | load => rfl
  | probe selector => exact fun named same => (Option.some.inj same).symm
  | measure id => exact fun named impossible => nomatch impossible

theorem Request.OfEdit.concerns
    {request : Request} (allowed : OfEdit context request) :
    request.Concerns context.key := by
  cases allowed with
  | load | write _ _ | reread => rfl
  | refresh | terminate _ => exact fun named same => (Option.some.inj same).symm
  | name | pause _ | count _ => trivial

/-- A command makes no call that names another pipeline than its own. -/
theorem Command.concerns (context : Context) (command : Command) :
    (command.operation context).AsksOnly (Request.Concerns context.key) := by
  cases command with
  | edit edit =>
      exact Operation.AsksOnly.map (edit.asksOnly.mono fun _ => Request.OfEdit.concerns) _
  | read reading => exact reading.asksOnly.mono fun _ => Request.OfReading.concerns
  | createPipeline => exact (makesOneCall_createPipeline context).asksOnly rfl
  | deletePipeline => exact (makesOneCall_deletePipeline context).asksOnly rfl

end PipelineRegistry
