import PipelineRegistry.Proofs.Cancellation
import PipelineRegistry.Proofs.Creations
import PipelineRegistry.Proofs.EditHistory

/-!
# Notices follow writes

The runtime is told of an edit only when its change is stored, and no attempt before the last one
has any say in what it is told. A notice that fails is reported, and so is one that is not made
because the request has been cancelled.
-/

namespace PipelineRegistry

/-! ## Notices and their failures -/

/-- The effect that a call to the runtime is to have. -/
def ServiceCall.effect? : ServiceCall → Option SideEffect
  | refreshSources _ => some .refreshSources
  | terminateWorkers _ _ => some .terminateWorkers
  | workerActive _ _ | sourceMetrics _ => none

/-- What there is to report of an exchange: the effect that a call failed to have. -/
def Exchange.failure? : Exchange → Option SideEffectError
  | ⟨.service _ call, .error error⟩ =>
      call.effect?.map fun effect => ⟨effect, error.message ServiceError.message⟩
  | _ => none

section Shapes

variable {bound : Bound} {call : ServiceCall}

@[simp]
theorem Exchange.serviceCall?_counted (counter : Counter) :
    (counted counter).serviceCall? = none :=
  rfl

@[simp]
theorem Exchange.failure?_counted (counter : Counter) : (counted counter).failure? = none :=
  rfl

@[simp]
theorem Exchange.failure?_ok (answer : call.Answer) :
    (⟨.service bound call, .ok answer⟩ : Exchange).failure? = none :=
  rfl

end Shapes

namespace Edit

variable {context : Context} {edit : Edit} {document written : PipelineDocument} {id : String}
  {receipt : Receipt}

theorem Named.serviceCall?_eq_none
    {naming : List Exchange} (named : edit.Named id naming) :
    ∀ exchange ∈ naming, exchange.serviceCall? = none := by
  unfold Named at named
  split at named
  · subst named
    simp [Exchange.serviceCall?]
  · obtain ⟨rfl, -⟩ := named
    simp

end Edit

theorem Attempts.serviceCall?_eq_none
    {α : Type} {context : Context} {mutation : Mutation} {change : Change α}
    {number remaining : Nat} {history : List Exchange} {result : Except RegistryError α}
    (attempts : Attempts context mutation change number remaining history result) :
    ∀ exchange ∈ history, exchange.serviceCall? = none := by
  induction attempts with
  | again document version key expected drafted remaining inductionHypothesis =>
      simp only [List.mem_cons, forall_eq_or_imp]
      exact ⟨rfl, rfl, rfl, rfl, inductionHypothesis⟩
  | _ =>
      simp [Exchange.load, Exchange.reread, Exchange.write, Exchange.counted, Exchange.pause,
        Exchange.serviceCall?]

/-! ## What is told -/

theorem Registry.yields_notify_iff
    {context : Context} {effect : SideEffect} {call : ServiceCall} {history : List Exchange}
    {result : Except RegistryError (List SideEffectError)} :
    Operation.Yields (notify context effect call) history result ↔
      (∃ answer,
        history = [⟨.service context.settings.bound call, .ok answer⟩] ∧ result = .ok []) ∨
      ∃ error,
        history = [⟨.service context.settings.bound call, .error error⟩,
          .counted (.sideEffectFailures effect)] ∧
        result = .ok [⟨effect, error.message ServiceError.message⟩] := by
  unfold notify
  rw [Operation.yields_request_bind_iff]
  constructor
  · rintro ⟨error | answer, rest, rfl, yields⟩
    · obtain ⟨behind, rfl, ended⟩ := yields_count_bind_iff.mp yields
      obtain ⟨rfl, rfl⟩ := Operation.yields_pure_iff.mp ended
      exact Or.inr ⟨error, rfl, rfl⟩
    · obtain ⟨rfl, rfl⟩ := Operation.yields_pure_iff.mp yields
      exact Or.inl ⟨answer, rfl, rfl⟩
  · rintro (⟨answer, rfl, rfl⟩ | ⟨error, rfl, rfl⟩)
    · exact ⟨.ok answer, [], rfl, Operation.yields_pure_iff.mpr ⟨rfl, rfl⟩⟩
    · exact ⟨.error error, [.counted (.sideEffectFailures effect)], rfl,
        yields_count_bind_iff.mpr ⟨[], rfl, Operation.yields_pure_iff.mpr ⟨rfl, rfl⟩⟩⟩

theorem Edit.yields_notifyAll_cons_iff
    {context : Context} {notice : Notice} {rest : List Notice} {history : List Exchange}
    {failures : List SideEffectError} :
    Operation.Yields (notifyAll context (notice :: rest)) history (.ok failures) ↔
      ∃ first later missed more,
        history = first ++ later ∧ failures = missed ++ more ∧
          Operation.Yields (Registry.notify context notice.effect notice.call) first
            (.ok missed) ∧
          Operation.Yields (notifyAll context rest) later (.ok more) := by
  rw [notifyAll, Operation.yields_bind_iff]
  constructor
  · rintro (⟨error, -, impossible⟩ | ⟨first, later, missed, rfl, made, yields⟩)
    · cases impossible
    rw [Operation.yields_bind_iff] at yields
    rcases yields with ⟨error, -, impossible⟩ | ⟨middle, last, more, rfl, others, ended⟩
    · cases impossible
    obtain ⟨rfl, same⟩ := Operation.yields_pure_iff.mp ended
    cases same
    exact ⟨first, middle, missed, more, by rw [List.append_nil], rfl, made, others⟩
  · rintro ⟨first, later, missed, more, rfl, rfl, made, others⟩
    refine Or.inr ⟨first, later, missed, rfl, made, Operation.yields_bind_iff.mpr ?_⟩
    exact Or.inr ⟨later, [], more, (List.append_nil _).symm, others,
      Operation.yields_pure_iff.mpr ⟨rfl, rfl⟩⟩

theorem Edit.serviceCall?_eq_none_of_error
    {context : Context} {edit : Edit} {history : List Exchange} {error : RegistryError}
    (yields : Operation.Yields (edit.operation context) history (.error error)) :
    ∀ exchange ∈ history, exchange.serviceCall? = none := by
  rcases yields_operation yields with
    ⟨failure, -, rfl, -⟩ |
    ⟨id, naming, attempts, told, attempted, named, grammar, rfl, quiet, ended⟩
  · simp
  rcases ended with ⟨failure, rfl, rfl, -⟩ | ⟨receipt, failures, -, -, impossible⟩
  · intro exchange member
    simp only [List.append_nil, List.mem_append] at member
    rcases member with member | member
    · exact named.serviceCall?_eq_none exchange member
    · exact grammar.serviceCall?_eq_none exchange member
  · cases impossible

namespace CancelledRemoval

def context : Context :=
  ⟨{}, ⟨"default", "sales"⟩⟩

def edit : Edit :=
  .deleteSource "s" .cascade

def before : PipelineDocument :=
  { extractSources := [{ id := "s", name := "orders", path := "/o" }] }

def renamed : PipelineDocument :=
  { extractSources := [{ id := "s", name := "invoices", path := "/o" }] }

def attempts : List Exchange :=
  [.load context (.ok (before, .ofCounter 1)),
    .write context {} (.ofCounter 1) (.error (.failed (.conflict context.key (.ofCounter 1)))),
    .counted .storeConflicts,
    .pause context 1 true,
    .load context (.ok (renamed, .ofCounter 2)),
    .write context {} (.ofCounter 2) (.ok (.ofCounter 3)),
    .counted (.mutations .extractSource .delete)]

def running : Simulation.Clock :=
  { now := 10 }

def cancelled : Simulation.Clock :=
  { now := 10, cancelledAt := some 10 }

def notices : List Moment :=
  [⟨running, ⟨.service context.settings.bound (.refreshSources context.key),
      .error (.failed (.requestFailed "http://runtime/"))⟩⟩,
    ⟨running, .counted (.sideEffectFailures .refreshSources)⟩,
    ⟨cancelled, ⟨.service context.settings.bound
      (.terminateWorkers context.key (workerSelector "invoices")),
      .error (.interrupted .cancelled)⟩⟩,
    ⟨cancelled, .counted (.sideEffectFailures .terminateWorkers)⟩]

def moments : List Moment :=
  attempts.map (⟨running, ·⟩) ++ notices

def outcome : MutationOutcome :=
  ⟨"s", [⟨.refreshSources, "request to http://runtime/ failed"⟩,
    ⟨.terminateWorkers, "cancelled by the caller"⟩]⟩

theorem heeds : Heeds moments :=
  ⟨by decide, by decide, by decide⟩

theorem yields :
    Operation.Yields (edit.operation context) (moments.map Moment.exchange) (.ok outcome) := by
  have attempted : Attempts context edit.mutation (edit.change context "") 1
      (context.settings.retryPolicy.maxAttempts.toNat - 1) attempts
      (.ok ⟨"s", [Edit.refreshNotice context, Edit.terminateNotice context "invoices"]⟩) :=
    Attempts.again before (.ofCounter 1) context.key (.ofCounter 1)
      (by rfl) (Attempts.stored renamed (.ofCounter 2) (.ofCounter 3) (by rfl))
  have notified : Operation.Yields
      (Edit.notifyAll context
        [Edit.refreshNotice context, Edit.terminateNotice context "invoices"])
      (notices.map Moment.exchange) (.ok outcome.sideEffectErrors) := by
    refine Edit.yields_notifyAll_cons_iff.mpr ⟨_, _, _, _, rfl, by rfl,
      Registry.yields_notify_iff.mpr (Or.inr ⟨_, rfl, rfl⟩), ?_⟩
    refine Edit.yields_notifyAll_cons_iff.mpr ⟨_, _, _, _, rfl, rfl,
      Registry.yields_notify_iff.mpr (Or.inr ⟨_, rfl, rfl⟩), ?_⟩
    exact Operation.yields_pure_iff.mpr ⟨rfl, rfl⟩
  exact Edit.yields_of_attempts rfl (Edit.Named.of_not_creation rfl) attempted notified

end CancelledRemoval

end PipelineRegistry
