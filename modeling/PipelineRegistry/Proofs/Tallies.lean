import PipelineRegistry.Proofs.Notices
import PipelineRegistry.Proofs.Rejections
import PipelineRegistry.Proofs.Requests

/-!
# Tallies of histories

Counting is asked for like anything else, so a history shows what was counted. In the complete
history of a command each counter is counted as often as the answer to the command, and the conflicts
of its writes, call for.
-/

namespace PipelineRegistry

open Registry

/-! ## Counts -/

namespace Counts

@[simp]
theorem of_nil (counter : Counter) : of [] counter = 0 :=
  rfl

theorem of_cons (first : Counter) (count : Nat) (rest : Counts) (counter : Counter) :
    of ((first, count) :: rest) counter = if first = counter then count else of rest counter := by
  unfold of
  by_cases same : first = counter
  · rw [same, List.lookup_cons_self, if_pos rfl, Option.getD_some]
  · have differs : (counter == first) = false := by simpa using Ne.symm same
    rw [List.lookup_cons, differs, if_neg same]

theorem of_add (counts : Counts) (counted counter : Counter) :
    (counts.add counted).of counter = counts.of counter + if counted = counter then 1 else 0 := by
  induction counts with
  | nil => rw [add, of_cons, of_nil, Nat.zero_add]
  | cons entry rest inductionHypothesis =>
      obtain ⟨first, count⟩ := entry
      by_cases here : first = counted
      · subst here
        rw [add, if_pos rfl, of_cons, of_cons]
        by_cases same : first = counter
        · simp only [same, ↓reduceIte]
        · simp only [same, ↓reduceIte, Nat.add_zero]
      · rw [add, if_neg here, of_cons, of_cons, inductionHypothesis]
        by_cases same : first = counter
        · subst same
          simp only [↓reduceIte, Ne.symm here, Nat.add_zero]
        · simp only [same, ↓reduceIte]

end Counts

/-- The counter that was counted. -/
def Exchange.counter? : Exchange → Option Counter
  | ⟨.count counter, _⟩ => some counter
  | _ => none

/-- What becomes of counts in the course of a history. -/
def Counts.after (counts : Counts) (history : List Exchange) : Counts :=
  (history.filterMap Exchange.counter?).foldl Counts.add counts

/-- How often a counter was counted in a history. -/
def tally (counter : Counter) (history : List Exchange) : Nat :=
  history.countP fun exchange => exchange.counter? = some counter

theorem Counts.after_cons (counts : Counts) (exchange : Exchange) (later : List Exchange) :
    counts.after (exchange :: later) = (counts.after [exchange]).after later := by
  unfold after
  rw [← List.singleton_append, List.filterMap_append, List.foldl_append]

theorem Counts.of_after (counts : Counts) (history : List Exchange) (counter : Counter) :
    (counts.after history).of counter = counts.of counter + tally counter history := by
  induction history generalizing counts with
  | nil => rfl
  | cons exchange rest inductionHypothesis =>
      unfold after tally at inductionHypothesis ⊢
      cases counted : exchange.counter? with
      | none =>
          rw [List.filterMap_cons_none counted, inductionHypothesis,
            List.countP_cons_of_neg (by simp [counted])]
      | some found =>
          rw [List.filterMap_cons_some counted, List.foldl_cons, inductionHypothesis, of_add,
            List.countP_cons]
          simp only [counted, Option.some.injEq, decide_eq_true_eq]
          omega

/-! ## Dues -/

/-- The store has answered a write with a conflict. A write that has met its deadline or the
cancellation of its request first is answered with this interruption, and is no conflict. -/
def Exchange.isConflict : Exchange → Bool
  | ⟨.store _ (.update _ _ _), .error (.failed (.conflict _ _))⟩ => true
  | _ => false

/-- A result says that a change may or may not have been applied. -/
def isInDoubt {α : Type} : Except RegistryError α → Bool
  | .error (.unknownOutcome _) => true
  | _ => false

/-- How often a counter is to be counted on account of a mutation, if there is one, with a result,
of side effects that have failed, and of a history. -/
def due {α : Type} (mutation? : Option Mutation) (result : Except RegistryError α)
    (failures : List SideEffectError) (history : List Exchange) : Counter → Nat
  | .mutations entity kind =>
      if mutation? = some ⟨entity, kind⟩ ∧ result.isOk = true then 1 else 0
  | .storeConflicts => history.countP Exchange.isConflict
  | .unknownWriteOutcomes => if isInDoubt result = true then 1 else 0
  | .sideEffectFailures effect => failures.countP fun failure => failure.effect = effect
  | .httpRequests _ _ _ => 0

section Shapes

variable {context : Context}

@[simp]
theorem Exchange.counter?_load
    (answer : Except (CallError StoreError) (PipelineDocument × Version)) :
    (load context answer).counter? = none :=
  rfl

@[simp]
theorem Exchange.counter?_reread
    (answer : Except (CallError StoreError) (PipelineDocument × Version)) :
    (reread context answer).counter? = none :=
  rfl

@[simp]
theorem Exchange.counter?_write
    (document : PipelineDocument) (expected : Version)
    (answer : Except (CallError StoreError) Version) :
    (write context document expected answer).counter? = none :=
  rfl

@[simp]
theorem Exchange.counter?_pause (number : Nat) (finished : Bool) :
    (pause context number finished).counter? = none :=
  rfl

@[simp]
theorem Exchange.counter?_counted (counter : Counter) :
    (counted counter).counter? = some counter :=
  rfl

@[simp]
theorem Exchange.counter?_service
    {bound : Bound} {call : ServiceCall} (answer : Except (CallError ServiceError) call.Answer) :
    (⟨.service bound call, answer⟩ : Exchange).counter? = none :=
  rfl

@[simp]
theorem Exchange.isConflict_service
    {bound : Bound} {call : ServiceCall} (answer : Except (CallError ServiceError) call.Answer) :
    (⟨.service bound call, answer⟩ : Exchange).isConflict = false :=
  rfl

@[simp]
theorem Exchange.isConflict_load
    (answer : Except (CallError StoreError) (PipelineDocument × Version)) :
    (load context answer).isConflict = false :=
  rfl

@[simp]
theorem Exchange.isConflict_reread
    (answer : Except (CallError StoreError) (PipelineDocument × Version)) :
    (reread context answer).isConflict = false :=
  rfl

@[simp]
theorem Exchange.isConflict_pause (number : Nat) (finished : Bool) :
    (pause context number finished).isConflict = false :=
  rfl

@[simp]
theorem Exchange.isConflict_counted (counter : Counter) : (counted counter).isConflict = false :=
  rfl

@[simp]
theorem Exchange.isConflict_write_ok
    (document : PipelineDocument) (expected later : Version) :
    (write context document expected (.ok later)).isConflict = false :=
  rfl

@[simp]
theorem Exchange.isConflict_write_interrupted
    (document : PipelineDocument) (expected : Version) (cause : Interruption) :
    (write context document expected (.error (.interrupted cause))).isConflict = false :=
  rfl

@[simp]
theorem Exchange.isConflict_write_conflict
    (document : PipelineDocument) (expected : Version) (key : PipelineKey) (token : Version) :
    (write context document expected (.error (.failed (.conflict key token)))).isConflict = true :=
  rfl

theorem Exchange.isConflict_write_failed
    (document : PipelineDocument) (expected : Version) {error : StoreError}
    (other : ∀ key token, error ≠ .conflict key token) :
    (write context document expected (.error (.failed error))).isConflict = false := by
  cases error with
  | conflict key token => exact absurd rfl (other key token)
  | _ => rfl

theorem Exchange.isWrite_of_isConflict
    {exchange : Exchange} (conflicts : exchange.isConflict = true) : exchange.isWrite = true := by
  unfold isConflict at conflicts
  split at conflicts
  · rfl
  · cases conflicts

end Shapes

section Errors

variable {α β : Type}

@[simp]
theorem isInDoubt_map {result : Except RegistryError α} {change : α → β} :
    isInDoubt (result.map change) = isInDoubt result := by
  cases result with
  | error error =>
      cases error
      all_goals rfl
  | ok value => rfl

theorem isInDoubt_ofStore (error : StoreError) :
    isInDoubt (.error (.ofStore error) : Except RegistryError α) = false := by
  cases error
  all_goals rfl

theorem isInDoubt_ofCall (failure : CallError StoreError) :
    isInDoubt (.error (.ofCall failure) : Except RegistryError α) = false := by
  cases failure with
  | failed error => exact isInDoubt_ofStore error
  | interrupted cause => rfl

theorem isInDoubt_of_isRejection {error : RegistryError} (rejection : error.IsRejection) :
    isInDoubt (.error error : Except RegistryError α) = false := by
  cases rejection
  all_goals rfl

/-- What is due does not depend on what a success brings. -/
theorem due_map
    {mutation? : Option Mutation} {result : Except RegistryError α} {change : α → β}
    {failures : List SideEffectError} {history : List Exchange} (counter : Counter) :
    due mutation? (result.map change) failures history counter =
      due mutation? result failures history counter := by
  cases counter with
  | mutations entity kind =>
      cases result with
      | error error => rfl
      | ok value => rfl
  | unknownWriteOutcomes => simp only [due, isInDoubt_map]
  | _ => rfl

end Errors

theorem tally_cons (counter : Counter) (exchange : Exchange) (rest : List Exchange) :
    tally counter (exchange :: rest) =
      tally counter rest + if exchange.counter? = some counter then 1 else 0 := by
  unfold tally
  rw [List.countP_cons]
  simp only [decide_eq_true_eq]

theorem tally_append (counter : Counter) (earlier later : List Exchange) :
    tally counter (earlier ++ later) = tally counter earlier + tally counter later :=
  List.countP_append

/-! ## Attempts -/

/-- The attempts of a mutation count its success, its doubt and its conflicts, each when it comes
about. -/
theorem Attempts.tally_eq
    {α : Type} {context : Context} {mutation : Mutation} {change : Change α}
    {number remaining : Nat} {history : List Exchange} {result : Except RegistryError α}
    (attempts : Attempts context mutation change number remaining history result)
    (rejections : ∀ document error, change document = .error error → error.IsRejection)
    (counter : Counter) :
    tally counter history = due (some mutation) result [] history counter := by
  obtain ⟨entity, kind⟩ := mutation
  induction attempts with
  | unread failure =>
      cases counter
      all_goals simp [tally, due, isInDoubt_ofCall, Except.isOk, Except.toBool]
  | rejected document version rejects =>
      have certain := isInDoubt_of_isRejection (α := α) (rejections document _ rejects)
      cases counter
      all_goals simp [tally, due, certain, Except.isOk, Except.toBool]
  | stored document version later drafted =>
      cases counter
      all_goals simp [tally, due, isInDoubt, Except.isOk, Except.toBool]
  | refused document version error drafted other =>
      have peaceful (document : PipelineDocument) (version : Version) :
          (Exchange.write context document version (.error (.failed error))).isConflict = false :=
        Exchange.isConflict_write_failed document version other
      cases counter
      all_goals simp [tally, due, isInDoubt_ofStore, peaceful, Except.isOk, Except.toBool]
  | recovered document version later cause drafted =>
      cases counter
      all_goals simp [tally, due, isInDoubt, Except.isOk, Except.toBool]
  | doubtful document version cause answer drafted missing =>
      cases counter
      all_goals simp [tally, due, isInDoubt, Except.isOk, Except.toBool]
  | exhausted document version key expected drafted =>
      cases counter
      all_goals simp [tally, due, isInDoubt, List.countP_cons, Except.isOk, Except.toBool]
  | abandoned document version key expected drafted =>
      cases counter
      all_goals simp [tally, due, isInDoubt, List.countP_cons, Except.isOk, Except.toBool]
  | again document version key expected drafted remaining inductionHypothesis =>
      -- Only the conflict of this attempt comes on top of what the later ones count.
      cases counter with
      | storeConflicts =>
          simp only [due] at inductionHypothesis ⊢
          simp [tally_cons, List.countP_cons, inductionHypothesis]
      | _ =>
          simp only [due] at inductionHypothesis ⊢
          simp [tally_cons, inductionHypothesis]

/-! ## Edits -/

/-- The side effects that a result reports as failed. -/
def MutationOutcome.failuresOf : Except RegistryError MutationOutcome → List SideEffectError
  | .ok outcome => outcome.sideEffectErrors
  | .error _ => []

theorem due_failures_append (missed more : List SideEffectError) (counter : Counter) :
    due none (.ok ()) (missed ++ more) [] counter =
      due none (.ok ()) missed [] counter + due none (.ok ()) more [] counter := by
  cases counter with
  | sideEffectFailures effect => exact List.countP_append
  | _ => rfl

namespace Edit

variable {context : Context} {edit : Edit} {history : List Exchange}

theorem Named.silent
    {id : String} {naming : List Exchange} (named : edit.Named id naming) (counter : Counter) :
    tally counter naming = 0 ∧ naming.countP Exchange.isConflict = 0 := by
  unfold Named at named
  split at named
  · subst named
    exact ⟨rfl, rfl⟩
  · obtain ⟨rfl, -⟩ := named
    exact ⟨rfl, rfl⟩

/-- The notices count what they fail to bring about. -/
theorem tally_notices
    {notices : List Notice} {failures : List SideEffectError}
    (yields : Operation.Yields (notifyAll context notices) history (.ok failures))
    (counter : Counter) :
    tally counter history = due none (.ok ()) failures [] counter ∧
      history.countP Exchange.isConflict = 0 := by
  induction notices generalizing history failures with
  | nil =>
      obtain ⟨rfl, same⟩ := Operation.yields_pure_iff.mp yields
      cases same
      cases counter
      all_goals exact ⟨rfl, rfl⟩
  | cons notice rest inductionHypothesis =>
      obtain ⟨first, later, missed, more, rfl, rfl, made, others⟩ :=
        yields_notifyAll_cons_iff.mp yields
      have here : tally counter first = due none (.ok ()) missed [] counter ∧
          first.countP Exchange.isConflict = 0 := by
        rcases Registry.yields_notify_iff.mp made with ⟨answer, rfl, same⟩ | ⟨error, rfl, same⟩
        · cases same
          cases counter
          all_goals exact ⟨rfl, rfl⟩
        · cases same
          refine ⟨?_, by simp⟩
          cases counter
          all_goals simp [tally, due, isInDoubt]
      obtain ⟨counted, peaceful⟩ := inductionHypothesis others
      rw [tally_append, due_failures_append, List.countP_append, here.1, here.2, counted, peaceful]
      exact ⟨rfl, rfl⟩

/-- The complete history of an edit counts what its result calls for. -/
theorem tally_of_yields
    {result : Except RegistryError MutationOutcome}
    (yields : Operation.Yields (edit.operation context) history result) (counter : Counter) :
    tally counter history =
      due (some edit.mutation) result (MutationOutcome.failuresOf result) history counter := by
  rcases yields_operation yields with
    ⟨error, failed, rfl, rfl⟩ |
    ⟨id, naming, attempts, told, attempted, named, grammar, rfl, -, ended⟩
  · obtain ⟨violation, rfl⟩ := edit.onlyViolations_check error failed
    cases counter
    all_goals
      simp [tally, due, isInDoubt, MutationOutcome.failuresOf, Except.isOk, Except.toBool]
  have attempting := grammar.tally_eq (fun _ _ => isRejection_of_change) counter
  obtain ⟨silent, unopposed⟩ := named.silent counter
  rcases ended with ⟨error, rfl, rfl, rfl⟩ | ⟨receipt, failures, rfl, notified, rfl⟩
  · rw [tally_append, tally_append, silent, attempting]
    cases counter with
    | storeConflicts => simp [due, tally, unopposed]
    | unknownWriteOutcomes =>
        cases error
        all_goals rfl
    | _ => simp [tally, due, MutationOutcome.failuresOf, Except.isOk, Except.toBool]
  · obtain ⟨counted, peaceful⟩ := tally_notices notified counter
    rw [tally_append, tally_append, silent, attempting, counted]
    cases counter with
    | storeConflicts => simp [due, unopposed, peaceful]
    | _ => simp [due, MutationOutcome.failuresOf, isInDoubt, Except.isOk, Except.toBool]

end Edit

/-! ## Commands -/

/-- The mutation that a command asks for. -/
def Command.mutation? : Command → Option Mutation
  | edit asked => some asked.mutation
  | read _ | createPipeline | deletePipeline => none

/-- The side effects that a result reports as failed. -/
def Reply.failuresOf : Except RegistryError Reply → List SideEffectError
  | .ok (.outcome made) => made.sideEffectErrors
  | _ => []

section Commands

variable {context : Context} {history : List Exchange} {result : Except RegistryError Reply}

/-- A history in which nothing is counted and nothing written is due to no mutation. -/
theorem tally_of_uncounted
    (uncounted : ∀ exchange ∈ history, exchange.counter? = none ∧ exchange.isWrite = false)
    (certain : isInDoubt result = false) (quiet : Reply.failuresOf result = [])
    (counter : Counter) :
    tally counter history = due none result (Reply.failuresOf result) history counter := by
  have none : tally counter history = 0 := by
    apply List.countP_eq_zero.mpr
    intro exchange member
    simp [(uncounted exchange member).1]
  have peaceful : history.countP Exchange.isConflict = 0 := by
    apply List.countP_eq_zero.mpr
    intro exchange member conflicts
    have writes := Exchange.isWrite_of_isConflict conflicts
    rw [(uncounted exchange member).2] at writes
    cases writes
  rw [none, quiet]
  cases counter
  all_goals simp [due, peaceful, certain]

theorem Reply.failuresOf_stored : failuresOf (result.map stored) = failuresOf result := by
  cases result with
  | error error => rfl
  | ok reply =>
      cases reply
      all_goals rfl

/-- What a document says to a reading reports neither doubts nor failures. -/
theorem Reading.certain_view
    (reading : Reading) (document : PipelineDocument) (version : Version) :
    isInDoubt (reading.view context document version) = false ∧
      Reply.failuresOf (reading.view context document version) = [] := by
  have certain {α : Type} {kind : EntityKind} {id : String} {found? : Option α}
      (reply : α → Reply) (plain : ∀ entity, Reply.failuresOf (.ok (reply entity)) = []) :
      isInDoubt ((found kind id found?).map reply) = false ∧
        Reply.failuresOf ((found kind id found?).map reply) = [] := by
    cases found? with
    | none => exact ⟨rfl, rfl⟩
    | some entity => exact ⟨rfl, plain entity⟩
  cases reading with
  | getSource id =>
      simp only [view, describeSource]
      cases document.findSource? id with
      | none => exact ⟨rfl, rfl⟩
      | some record => exact ⟨rfl, rfl⟩
  | getRule | getExtension | getFunction => exact certain _ fun _ => rfl
  | listSources | listRules | listExtensions | listFunctions | getPipeline => exact ⟨rfl, rfl⟩

theorem Reading.certain_of_yields
    {reading : Reading} (yields : Operation.Yields (reading.operation context) history result) :
    isInDoubt result = false ∧ Reply.failuresOf result = [] := by
  rcases yields_operation yields with ⟨failure, -, rfl⟩ | ⟨document, version, -, -, -, shows⟩
  · exact ⟨isInDoubt_ofCall failure, rfl⟩
  · rw [← isInDoubt_map, ← Reply.failuresOf_stored, shows]
    exact reading.certain_view document version

theorem Reading.uncounted_of_yields
    {reading : Reading} (yields : Operation.Yields (reading.operation context) history result) :
    ∀ exchange ∈ history, exchange.counter? = none ∧ exchange.isWrite = false := by
  intro exchange member
  refine ⟨?_, isWrite_of_yields yields exchange member⟩
  have allowed := (reading.asksOnly.of_leads yields).1 exchange member
  obtain ⟨request, answer⟩ := exchange
  cases allowed
  all_goals rfl

/-- A command that is no mutation counts nothing, writes nothing, and leaves nothing in doubt. -/
theorem Command.silent_of_yields
    {command : Command} (unchanging : command.mutation? = none)
    (yields : Operation.Yields (command.operation context) history result) :
    (∀ exchange ∈ history, exchange.counter? = none ∧ exchange.isWrite = false) ∧
      isInDoubt result = false ∧ Reply.failuresOf result = [] := by
  cases command with
  | edit asked => cases unchanging
  | read reading =>
      exact ⟨Reading.uncounted_of_yields yields, Reading.certain_of_yields yields⟩
  | createPipeline =>
      obtain ⟨failure | version, rfl, rfl⟩ := (makesOneCall_createPipeline context).yields yields
      · exact ⟨List.forall_mem_singleton.mpr ⟨rfl, rfl⟩, isInDoubt_ofCall failure, rfl⟩
      · exact ⟨List.forall_mem_singleton.mpr ⟨rfl, rfl⟩, rfl, rfl⟩
  | deletePipeline =>
      obtain ⟨failure | done, rfl, rfl⟩ := (makesOneCall_deletePipeline context).yields yields
      · exact ⟨List.forall_mem_singleton.mpr ⟨rfl, rfl⟩, isInDoubt_ofCall failure, rfl⟩
      · exact ⟨List.forall_mem_singleton.mpr ⟨rfl, rfl⟩, rfl, rfl⟩

/-- The complete history of a command counts what its result calls for. -/
theorem Command.tally_of_yields
    {command : Command} (yields : Operation.Yields (command.operation context) history result)
    (counter : Counter) :
    tally counter history =
      due command.mutation? result (Reply.failuresOf result) history counter := by
  cases asks : command.mutation? with
  | none =>
      obtain ⟨uncounted, certain, quiet⟩ := silent_of_yields asks yields
      exact tally_of_uncounted uncounted certain quiet counter
  | some mutation =>
      cases command with
      | read | createPipeline | deletePipeline => cases asks
      | edit asked =>
          obtain rfl := Option.some.inj asks
          obtain ⟨outcome, edited, rfl⟩ := Operation.yields_map_iff.mp yields
          rw [due_map, asked.tally_of_yields edited counter]
          cases outcome with
          | error error => rfl
          | ok made => rfl

end Commands

end PipelineRegistry
