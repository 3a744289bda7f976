import PipelineRegistry.Proofs.Commits

/-!
# Operations served one at a time

When a store without faults serves a single operation, the result and what becomes of the store can
be computed. `Program.serve` does so, given what the store does not decide: the id of a new entity,
and what services answer. Every run can be continued by serving a caller to its end, so what is
served here is also what happens among many callers.
-/

namespace PipelineRegistry

open Registry

/-! ## Surroundings -/

/-- What a store does not decide. -/
structure Surroundings where
  newId : String
  service : (call : ServiceCall) → Except (CallError ServiceError) call.Answer

namespace Surroundings

/-- The answer to a request, and what becomes of the store. -/
def answer (surroundings : Surroundings) (store : Store) :
    (request : Request) → request.Answer × Store
  | .store _ call => (store.answer call, store.after call)
  | .service _ call => (surroundings.service call, store)
  | .pause _ => (true, store)
  | .freshId => (surroundings.newId, store)
  | .count _ => ((), store)

/-- What is reported of a notice, which is nothing unless it fails. -/
def failure (surroundings : Surroundings) (notice : Notice) : List SideEffectError :=
  match surroundings.service notice.call with
  | .ok _ => []
  | .error error => [⟨notice.effect, error.message ServiceError.message⟩]

def failures (surroundings : Surroundings) (notices : List Notice) : List SideEffectError :=
  notices.flatMap surroundings.failure

end Surroundings

/-! ## Serving programs -/

/-- The result of a program that nobody disturbs, and the store it leaves. -/
def Program.serve {α : Type} (surroundings : Surroundings) : Program α → Store → α × Store
  | .done result, store => (result, store)
  | .ask request next, store =>
      serve surroundings (next (surroundings.answer store request).1)
        (surroundings.answer store request).2

theorem Program.serve_bind
    {α β : Type} (surroundings : Surroundings) (program : Program α) (next : α → Program β)
    (store : Store) :
    (Program.bind program next).serve surroundings store =
      (next (program.serve surroundings store).1).serve surroundings
        (program.serve surroundings store).2 := by
  induction program generalizing store with
  | done result => rfl
  | ask request continuation inductionHypothesis =>
      exact inductionHypothesis _ _

/-- The result of an operation that nobody disturbs, and the store it leaves. -/
def Operation.serve {α : Type} (surroundings : Surroundings) (operation : Operation α)
    (store : Store) : Except RegistryError α × Store :=
  operation.run.serve surroundings store

section Serving

variable {α β : Type} {surroundings : Surroundings} {store after : Store}
  {document written : PipelineDocument} {counter : Int} {context : Context}
  {mutation : Mutation} {change : Change α} {output : α} {error : RegistryError}

namespace Operation

theorem serve_pure (value : α) :
    (pure value : Operation α).serve surroundings store = (.ok value, store) :=
  rfl

theorem serve_ofExcept (checked : Except RegistryError α) :
    (ofExcept checked).serve surroundings store = (checked, store) :=
  rfl

theorem serve_request_bind (asked : Request) (next : asked.Answer → Operation β) :
    (request asked >>= next).serve surroundings store =
      (next (surroundings.answer store asked).1).serve surroundings
        (surroundings.answer store asked).2 :=
  rfl

theorem serve_bind_of_ok
    {operation : Operation α} {value : α} {next : α → Operation β}
    (served : operation.serve surroundings store = (.ok value, after)) :
    (operation >>= next).serve surroundings store = (next value).serve surroundings after := by
  change (Program.bind operation.run (ExceptT.bindCont next)).serve surroundings store = _
  have first : operation.run.serve surroundings store = (.ok value, after) := served
  rw [Program.serve_bind, first]
  rfl

theorem serve_bind_of_error
    {operation : Operation α} {next : α → Operation β}
    (served : operation.serve surroundings store = (.error error, after)) :
    (operation >>= next).serve surroundings store = (.error error, after) := by
  change (Program.bind operation.run (ExceptT.bindCont next)).serve surroundings store = _
  have first : operation.run.serve surroundings store = (.error error, after) := served
  rw [Program.serve_bind, first]
  rfl

theorem serve_map (change : α → β) (operation : Operation α) :
    (change <$> operation).serve surroundings store =
      ((operation.serve surroundings store).1.map change,
        (operation.serve surroundings store).2) := by
  rw [← bind_pure_comp]
  cases served : operation.serve surroundings store with
  | mk result after =>
      cases result with
      | error error => exact serve_bind_of_error served
      | ok value => exact serve_bind_of_ok served

end Operation

/-! ## Changes -/

theorem serve_load (known : store.find? context.key = some ⟨document, counter⟩) :
    (load context).serve surroundings store = (.ok (document, .ofCounter counter), store) := by
  have answered : store.answer (.get context.key) = .ok (document, .ofCounter counter) :=
    Store.answer_get_eq_ok_iff.mpr ⟨counter, known, rfl⟩
  unfold load
  rw [Operation.serve_request_bind]
  simp only [Surroundings.answer, answered]
  rfl

theorem serve_inspect
    (surroundings : Surroundings)
    (known : store.find? context.key = some ⟨document, counter⟩)
    (look : PipelineDocument → Except RegistryError α) :
    (inspect context look).serve surroundings store = (look document, store) := by
  unfold inspect
  rw [Operation.serve_bind_of_ok (serve_load known)]
  exact Operation.serve_ofExcept _

theorem serve_mutate_of_error
    (known : store.find? context.key = some ⟨document, counter⟩)
    (rejects : change document = .error error) :
    (mutate context mutation change).serve surroundings store = (.error error, store) := by
  unfold mutate
  rw [attempt_eq, Operation.serve_bind_of_ok (serve_load known)]
  apply Operation.serve_bind_of_error
  rw [rejects]
  exact Operation.serve_ofExcept _

theorem serve_mutate_of_ok
    (known : store.find? context.key = some ⟨document, counter⟩)
    (changed : change document = .ok (written, output)) :
    (mutate context mutation change).serve surroundings store =
      (.ok output, store.after (.update context.key written (.ofCounter counter))) := by
  have answered : store.answer (.update context.key written (.ofCounter counter)) =
      .ok (.ofCounter (counter + 1)) :=
    Store.answer_update_eq_ok_iff.mpr ⟨_, known, rfl, rfl⟩
  have drafted : (Operation.ofExcept (change document)).serve surroundings store =
      (.ok (written, output), store) := by
    rw [changed]
    exact Operation.serve_ofExcept _
  unfold mutate
  rw [attempt_eq, Operation.serve_bind_of_ok (serve_load known),
    Operation.serve_bind_of_ok drafted]
  unfold write
  rw [Operation.serve_request_bind]
  simp only [Surroundings.answer, answered]
  rfl

/-! ## Edits -/

variable {edit : Edit} {receipt : Receipt}

theorem serve_notify (notice : Notice) :
    (notify context notice.effect notice.call).serve surroundings store =
      (.ok (surroundings.failure notice), store) := by
  unfold notify
  rw [Operation.serve_request_bind]
  simp only [Surroundings.answer, Surroundings.failure]
  cases surroundings.service notice.call with
  | ok answer => rfl
  | error error => rfl

theorem Edit.serve_notifyAll (notices : List Notice) :
    (notifyAll context notices).serve surroundings store =
      (.ok (surroundings.failures notices), store) := by
  induction notices with
  | nil => rfl
  | cons notice rest inductionHypothesis =>
      rw [notifyAll, Operation.serve_bind_of_ok (serve_notify notice),
        Operation.serve_bind_of_ok inductionHypothesis]
      exact Operation.serve_pure _

theorem Edit.serve_of_check_error (failed : edit.check = .error error) :
    (edit.operation context).serve surroundings store = (.error error, store) := by
  rw [operation_eq, perform]
  apply Operation.serve_bind_of_error
  rw [failed]
  exact Operation.serve_ofExcept _

theorem Edit.serve_nameNew
    (surroundings : Surroundings) (store : Store) (context : Context) (edit : Edit) :
    ∃ id, edit.nameNew.serve surroundings store = (.ok id, store) ∧
      edit.change context id = edit.change context surroundings.newId := by
  unfold nameNew
  cases creates : edit.isCreation with
  | true => exact ⟨surroundings.newId, rfl, rfl⟩
  | false => exact ⟨"", rfl, change_eq_of_not_isCreation creates context _ _⟩

theorem Edit.serve_of_rejected
    (known : store.find? context.key = some ⟨document, counter⟩)
    (checked : edit.check = .ok ())
    (rejects : edit.change context surroundings.newId document = .error error) :
    (edit.operation context).serve surroundings store = (.error error, store) := by
  have passed : (Operation.ofExcept edit.check).serve surroundings store = (.ok (), store) := by
    rw [checked]
    exact Operation.serve_ofExcept _
  obtain ⟨id, named, same⟩ := serve_nameNew surroundings store context edit
  rw [← same] at rejects
  rw [operation_eq, perform, Operation.serve_bind_of_ok passed, Operation.serve_bind_of_ok named]
  exact Operation.serve_bind_of_error (serve_mutate_of_error known rejects)

theorem Edit.serve_of_changed
    (known : store.find? context.key = some ⟨document, counter⟩)
    (checked : edit.check = .ok ())
    (changed : edit.change context surroundings.newId document = .ok (written, receipt)) :
    (edit.operation context).serve surroundings store =
      (.ok ⟨receipt.id, surroundings.failures receipt.notices⟩,
        store.after (.update context.key written (.ofCounter counter))) := by
  have passed : (Operation.ofExcept edit.check).serve surroundings store = (.ok (), store) := by
    rw [checked]
    exact Operation.serve_ofExcept _
  obtain ⟨id, named, same⟩ := serve_nameNew surroundings store context edit
  rw [← same] at changed
  rw [operation_eq, perform, Operation.serve_bind_of_ok passed, Operation.serve_bind_of_ok named,
    Operation.serve_bind_of_ok (serve_mutate_of_ok known changed),
    Operation.serve_bind_of_ok (serve_notifyAll receipt.notices)]
  exact Operation.serve_pure _

/-- The three ways in which an edit of a stored pipeline can end. -/
theorem Edit.serve_cases
    (known : store.find? context.key = some ⟨document, counter⟩) :
    (∃ error, edit.check = .error error ∧
      (edit.operation context).serve surroundings store = (.error error, store)) ∨
    (edit.check = .ok () ∧ ∃ error,
      edit.change context surroundings.newId document = .error error ∧
      (edit.operation context).serve surroundings store = (.error error, store)) ∨
    (edit.check = .ok () ∧ ∃ written receipt,
      edit.change context surroundings.newId document = .ok (written, receipt) ∧
      (edit.operation context).serve surroundings store =
        (.ok ⟨receipt.id, surroundings.failures receipt.notices⟩,
          store.after (.update context.key written (.ofCounter counter)))) := by
  cases checked : edit.check with
  | error error => exact Or.inl ⟨error, rfl, serve_of_check_error checked⟩
  | ok passed =>
      apply Or.inr
      cases changed : edit.change context surroundings.newId document with
      | error error => exact Or.inl ⟨rfl, error, rfl, serve_of_rejected known checked changed⟩
      | ok result =>
          obtain ⟨written, receipt⟩ := result
          exact Or.inr ⟨rfl, written, receipt, rfl, serve_of_changed known checked changed⟩

/-! ## Readings -/

/-- What the runtime says of the workers of a source, if it says anything. -/
theorem serve_probeWorkers
    (surroundings : Surroundings) (store : Store) (context : Context) (sourceName : String) :
    (probeWorkers context sourceName).serve surroundings store =
      (.ok (surroundings.service
        (.workerActive context.key (workerSelector sourceName))).toOption, store) := by
  unfold probeWorkers
  rw [Operation.serve_request_bind]
  simp only [Surroundings.answer]
  cases surroundings.service (.workerActive context.key (workerSelector sourceName)) with
  | ok active => rfl
  | error failure => rfl

/-- The metrics of a source, if there is a service that answers. -/
theorem serve_measureSource
    (surroundings : Surroundings) (store : Store) (context : Context) (id : String) :
    (measureSource context id).serve surroundings store =
      (.ok (if context.settings.measuresSources then
        (surroundings.service (.sourceMetrics id)).toOption.getD [] else []), store) := by
  unfold measureSource
  by_cases measures : context.settings.measuresSources = true
  · rw [if_pos measures, if_pos measures, Operation.serve_request_bind]
    simp only [Surroundings.answer]
    cases surroundings.service (.sourceMetrics id) with
    | ok metrics => rfl
    | error failure => rfl
  · rw [if_neg measures, if_neg measures]
    rfl

/-- Reading a source gives its description with the two answers put in. -/
theorem serve_getSource_of_described
    {detail : ExtractSourceDetail} {id : String} (surroundings : Surroundings)
    (known : store.find? context.key = some ⟨document, counter⟩)
    (described : describeSource id document = .ok detail) :
    (getSource context id).serve surroundings store =
      (.ok { detail with
        workerActive :=
          if detail.source.scheme = some .api then
            (surroundings.service
              (.workerActive context.key (workerSelector detail.source.name))).toOption
          else none
        metrics :=
          if context.settings.measuresSources then
            (surroundings.service (.sourceMetrics id)).toOption.getD [] else [] }, store) := by
  have inspected := serve_inspect surroundings known (describeSource id)
  have probed := serve_probeWorkers surroundings store context detail.source.name
  have measured := serve_measureSource surroundings store context id
  rw [described] at inspected
  unfold getSource
  rw [Operation.serve_bind_of_ok inspected]
  by_cases isApi : detail.source.scheme = some .api
  · rw [if_pos isApi, if_pos isApi, Operation.serve_bind_of_ok probed,
      Operation.serve_bind_of_ok measured]
    exact Operation.serve_pure _
  · rw [if_neg isApi, if_neg isApi, Operation.serve_bind_of_ok (Operation.serve_pure none),
      Operation.serve_bind_of_ok measured]
    exact Operation.serve_pure _

/-- Reading a source gives what the document says of it, and what services add. -/
theorem serve_getSource
    (surroundings : Surroundings)
    (known : store.find? context.key = some ⟨document, counter⟩) (id : String) :
    ∃ workerActive metrics,
      (getSource context id).serve surroundings store =
        ((describeSource id document).map fun detail =>
          { detail with workerActive := workerActive, metrics := metrics }, store) := by
  cases described : describeSource id document with
  | error error =>
      have inspected := serve_inspect surroundings known (describeSource id)
      rw [described] at inspected
      unfold getSource
      exact ⟨none, [], Operation.serve_bind_of_error inspected⟩
  | ok detail => exact ⟨_, _, serve_getSource_of_described surroundings known described⟩

end Serving

/-! ## Serving a caller in a run -/

theorem Surroundings.answers
    (surroundings : Surroundings) (reliability : Reliability) (caller : Nat)
    (database : Database) (request : Request) :
    Answers reliability caller database
      ⟨request, (surroundings.answer database.store request).1⟩
      { database with store := (surroundings.answer database.store request).2 } := by
  cases request with
  | store bound call => exact Answers.performed bound call
  | service bound call => exact Answers.served bound call _
  | pause duration => exact Answers.paused duration fun _ => rfl
  | freshId => exact Answers.named _
  | count counter => exact Answers.counted counter

/-- A caller goes on by itself: these are events of its own. -/
def Event.isOf (caller : Nat) : Event → Prop
  | exchanged other _ => other = caller
  | returned other _ => other = caller
  | _ => False

namespace Run

variable {reliability : Reliability} {initial : Store} {trace : List Event}
  {database : Database} {caller : Nat} {context : Context} {command : Command}

/-- A caller that has not returned can be served to its end while all others
wait. -/
theorem serve
    (surroundings : Surroundings)
    (run : Run reliability initial trace database)
    (asked : .invoked caller context command ∈ trace)
    (running : ∀ result, .returned caller result ∉ trace)
    {rest : Program (Except RegistryError Reply)}
    (leads : Program.Leads (command.operation context).run (historyOf caller trace) rest) :
    ∃ later final,
      Run reliability initial (trace ++ later) final ∧
      final.store = (rest.serve surroundings database.store).2 ∧
      .returned caller (rest.serve surroundings database.store).1 ∈ later ∧
      ∀ event ∈ later, event.isOf caller := by
  induction rest generalizing trace database with
  | done result =>
      refine ⟨[.returned caller result], database, run.step (Step.returned asked running leads),
        rfl, by simp [Program.serve], ?_⟩
      intro event member
      rw [List.mem_singleton.mp member]
      rfl
  | ask request next inductionHypothesis =>
      let exchange : Exchange :=
        ⟨request, (surroundings.answer database.store request).1⟩
      have answers := surroundings.answers reliability caller database request
      have exchanged : Step reliability trace database (.exchanged caller exchange) _ :=
        Step.exchanged asked running leads answers
      have further := run.step exchanged
      have stillRunning : ∀ result,
          .returned caller result ∉ trace ++ [.exchanged caller exchange] := by
        intro result member
        rcases List.mem_append.mp member with member | member
        · exact running result member
        · cases List.mem_singleton.mp member
      have stillLeads : Program.Leads (command.operation context).run
          (historyOf caller (trace ++ [.exchanged caller exchange])) (next exchange.answer) := by
        rw [historyOf_append, historyOf_exchanged]
        exact leads.extend exchange.answer
      obtain ⟨later, final, completed, left, returned, own⟩ :=
        inductionHypothesis _ further (List.mem_append_left _ asked) stillRunning stillLeads
      rw [List.append_assoc] at completed
      refine ⟨.exchanged caller exchange :: later, final, completed, left,
        List.mem_cons_of_mem _ returned, ?_⟩
      intro event member
      rcases List.mem_cons.mp member with rfl | member
      · rfl
      · exact own event member

end Run

end PipelineRegistry
