import Mathlib.Algebra.BigOperators.Group.List.Basic
import Mathlib.Algebra.GroupWithZero.Nat
import Mathlib.Data.List.Nodup
import PipelineRegistry.Proofs.Courses
import PipelineRegistry.Proofs.Run
import PipelineRegistry.Proofs.Tallies

/-!
# What counters account for

Any number of callers ask commands of the registry, and each is answered in the end. In whatever
order their exchanges take place and however these are answered, the counters then tell what has
happened: which mutations have succeeded, how many writes met with a conflict, how many mutations
were left in doubt, and which side effects were reported as failed. This covers every run in which
everybody has been answered, and what is counted in the simulated world.
-/

namespace PipelineRegistry

/-! ## Commands that have been answered -/

/-- A command that a caller has asked, and what it was answered. -/
structure Completion where
  caller : Nat
  context : Context
  command : Command
  result : Except RegistryError Reply

namespace Completion

/-- The command was a mutation, and it has succeeded. -/
def succeeds (mutation : Mutation) (completion : Completion) : Bool :=
  completion.command.mutation? = some mutation ∧ completion.result.isOk = true

/-- The command was a mutation, and its change may or may not have been applied. -/
def leavesInDoubt (completion : Completion) : Bool :=
  completion.command.mutation?.isSome && isInDoubt completion.result

/-- The side effects that the answer reports as failed. -/
def failures (completion : Completion) : List SideEffectError :=
  Reply.failuresOf completion.result

end Completion

/-- All that was asked and answered in the course of events, by whichever caller. -/
def exchangesOf (trace : List Event) : List Exchange :=
  trace.filterMap fun
    | .exchanged _ exchange => some exchange
    | _ => none

/-- The commands of these callers have been answered, and nobody else has asked anything. Stores and
services may have answered whatever they liked. -/
structure Settled (completions : List Completion) (trace : List Event) : Prop where
  distinct : (completions.map Completion.caller).Nodup
  known : ∀ caller exchange,
    .exchanged caller exchange ∈ trace → caller ∈ completions.map Completion.caller
  yields : ∀ completion ∈ completions,
    Operation.Yields (completion.command.operation completion.context)
      (historyOf completion.caller trace) completion.result

/-- The counters have grown by what has happened, and by nothing else. -/
structure Accounts (completions : List Completion) (happened : List Exchange)
    (before after : Counts) : Prop where
  mutations : ∀ entity kind,
    after.of (.mutations entity kind) =
      before.of (.mutations entity kind) + completions.countP (·.succeeds ⟨entity, kind⟩)
  storeConflicts :
    after.of .storeConflicts = before.of .storeConflicts + happened.countP Exchange.isConflict
  unknownWriteOutcomes :
    after.of .unknownWriteOutcomes =
      before.of .unknownWriteOutcomes + completions.countP Completion.leavesInDoubt
  sideEffectFailures : ∀ effect,
    after.of (.sideEffectFailures effect) =
      before.of (.sideEffectFailures effect) +
        (completions.flatMap Completion.failures).countP fun failure => failure.effect = effect
  httpRequests : ∀ method path status,
    after.of (.httpRequests method path status) = before.of (.httpRequests method path status)

section Accounting

variable {completions : List Completion} {trace : List Event} {callers : List Nat}

/-! ## Sums over callers -/

theorem sum_indicator
    {caller : Nat} (distinct : callers.Nodup) (member : caller ∈ callers) (amount : Nat) :
    (callers.map fun other => if caller = other then amount else 0).sum = amount := by
  rw [List.sum_map_eq_nsmul_single caller]
  · rw [List.count_eq_one_of_mem distinct member, one_nsmul, if_pos rfl]
  · intro other different _
    exact if_neg (Ne.symm different)

/-- What is counted in a whole trace is counted in the history of one of the callers. -/
theorem countP_exchangesOf
    (counts : Exchange → Bool) (distinct : callers.Nodup)
    (known : ∀ caller exchange, .exchanged caller exchange ∈ trace → caller ∈ callers) :
    (exchangesOf trace).countP counts =
      (callers.map fun caller => (historyOf caller trace).countP counts).sum := by
  induction trace with
  | nil => simp [exchangesOf]
  | cons event rest inductionHypothesis =>
      have remaining := inductionHypothesis fun caller exchange member =>
        known caller exchange (List.mem_cons_of_mem _ member)
      cases event with
      | exchanged caller exchange =>
          have first (other : Nat) :
              (historyOf other (.exchanged caller exchange :: rest)).countP counts =
                (historyOf other rest).countP counts +
                  if caller = other then (if counts exchange then 1 else 0) else 0 := by
            by_cases same : caller = other
            · subst same
              simp [List.countP_cons]
            · simp [historyOf, Event.exchange?, same]
          have asked := known caller exchange List.mem_cons_self
          simp only [first]
          rw [List.sum_map_add, ← remaining, sum_indicator distinct asked]
          exact List.countP_cons
      | _ => exact remaining

theorem sum_ite {α : Type} (holds : α → Bool) (values : List α) :
    (values.map fun value => if holds value then 1 else 0).sum = values.countP holds := by
  induction values with
  | nil => rfl
  | cons first rest inductionHypothesis =>
      rw [List.map_cons, List.sum_cons, inductionHypothesis, List.countP_cons, Nat.add_comm]

theorem Completion.leavesInDoubt_eq
    {completion : Completion} {history : List Exchange}
    (yields : Operation.Yields (completion.command.operation completion.context) history
      completion.result) :
    completion.leavesInDoubt = isInDoubt completion.result := by
  unfold leavesInDoubt
  cases asks : completion.command.mutation? with
  | none =>
      obtain ⟨-, certain, -⟩ := Command.silent_of_yields asks yields
      rw [certain]
      rfl
  | some mutation => rfl

/-- The counters of a trace are due to the commands that were answered in it. -/
theorem Settled.tally_eq (settled : Settled completions trace) (counter : Counter) :
    tally counter (exchangesOf trace) =
      (completions.map fun completion =>
        due completion.command.mutation? completion.result completion.failures
          (historyOf completion.caller trace) counter).sum := by
  rw [tally, countP_exchangesOf _ settled.distinct settled.known, List.map_map]
  congr 1
  apply List.map_congr_left
  intro completion member
  exact Command.tally_of_yields (settled.yields completion member) counter

/-- Whatever happens, the counters account for it exactly. -/
theorem counters_account (settled : Settled completions trace) (counts : Counts) :
    Accounts completions (exchangesOf trace) counts (counts.after (exchangesOf trace)) := by
  constructor
  case mutations =>
    intro entity kind
    rw [Counts.of_after, settled.tally_eq, ← sum_ite]
    simp only [due, Completion.succeeds, decide_eq_true_eq]
  case storeConflicts =>
    rw [Counts.of_after, settled.tally_eq,
      countP_exchangesOf _ settled.distinct settled.known, List.map_map]
    rfl
  case unknownWriteOutcomes =>
    rw [Counts.of_after, settled.tally_eq, ← sum_ite]
    congr 2
    apply List.map_congr_left
    intro completion member
    rw [Completion.leavesInDoubt_eq (settled.yields completion member)]
    rfl
  case sideEffectFailures =>
    intro effect
    rw [Counts.of_after, settled.tally_eq, List.countP_flatMap]
    rfl
  case httpRequests =>
    intro method path status
    rw [Counts.of_after, settled.tally_eq]
    simp [due]

end Accounting

/-! ### A conflict, a lost answer and two failed notices

The removal of a source is overtaken once and its notices fail. Meanwhile, the removal of a function
from another pipeline is cancelled while it is written.
-/

theorem historyOf_map (caller : Nat) (history : List Exchange) :
    historyOf caller (history.map (.exchanged caller)) = history := by
  induction history with
  | nil => rfl
  | cons exchange rest inductionHypothesis =>
      rw [List.map_cons, historyOf_cons_exchanged, inductionHypothesis]

theorem historyOf_map_of_ne
    {caller other : Nat} {history : List Exchange} (different : other ≠ caller) :
    historyOf caller (history.map (.exchanged other)) = [] := by
  simp [historyOf, Event.exchange?, different]

namespace TwoRemovals

def context : Context :=
  ⟨{}, ⟨"default", "costs"⟩⟩

def edit : Edit :=
  .deleteFunction "f"

def held : PipelineDocument :=
  { transformFunctions := [{ id := "f", name := "sum", source := "a + b" }] }

def cutOff : List Exchange :=
  [.load context (.ok (held, .ofCounter 1)),
    .write context {} (.ofCounter 1) (.error (.interrupted .cancelled)),
    .reread context (.ok (held, .ofCounter 1)),
    .counted .unknownWriteOutcomes]

def removal : List Exchange :=
  CancelledRemoval.moments.map Moment.exchange

def trace : List Event :=
  (removal.take 4).map (.exchanged 0) ++ cutOff.map (.exchanged 1) ++
    (removal.drop 4).map (.exchanged 0)

def completions : List Completion :=
  [⟨0, CancelledRemoval.context, .edit CancelledRemoval.edit,
      .ok (.outcome CancelledRemoval.outcome)⟩,
    ⟨1, context, .edit edit, .error (.unknownOutcome .cancelled)⟩]

theorem yields_cutOff :
    Operation.Yields (edit.operation context) cutOff (.error (.unknownOutcome .cancelled)) := by
  have attempted : Attempts context edit.mutation (edit.change context "") 1
      (context.settings.retryPolicy.maxAttempts.toNat - 1) cutOff
      (.error (.unknownOutcome .cancelled)) := by
    refine Attempts.doubtful held (.ofCounter 1) .cancelled _ (by rfl) ?_
    intro later same
    cases same
  exact Edit.yields_of_failed_attempts rfl (Edit.Named.of_not_creation rfl) attempted

theorem historyOf_trace : historyOf 0 trace = removal ∧ historyOf 1 trace = cutOff := by
  constructor
  · rw [trace, historyOf_append, historyOf_append, historyOf_map, historyOf_map,
      historyOf_map_of_ne (by decide), List.append_nil, List.take_append_drop]
  · rw [trace, historyOf_append, historyOf_append, historyOf_map, historyOf_map_of_ne (by decide),
      historyOf_map_of_ne (by decide), List.nil_append, List.append_nil]

theorem settled : Settled completions trace where
  distinct := by decide
  known := by
    intro caller exchange member
    simp only [trace, List.mem_append, List.mem_map, Event.exchanged.injEq] at member
    rcases member with (⟨_, _, rfl, -⟩ | ⟨_, _, rfl, -⟩) | ⟨_, _, rfl, -⟩
    all_goals decide
  yields := by
    obtain ⟨first, second⟩ := historyOf_trace
    refine List.forall_mem_cons.mpr ⟨?_, List.forall_mem_singleton.mpr ?_⟩
    · rw [first]
      exact Operation.yields_map_iff.mpr ⟨_, CancelledRemoval.yields, rfl⟩
    · rw [second]
      exact Operation.yields_map_iff.mpr ⟨_, yields_cutOff, rfl⟩

end TwoRemovals

theorem counters_account_twoRemovals :
    Settled TwoRemovals.completions TwoRemovals.trace ∧
      Accounts TwoRemovals.completions (exchangesOf TwoRemovals.trace) []
        [(.storeConflicts, 1), (.unknownWriteOutcomes, 1), (.mutations .extractSource .delete, 1),
          (.sideEffectFailures .refreshSources, 1), (.sideEffectFailures .terminateWorkers, 1)] :=
  ⟨TwoRemovals.settled, counters_account TwoRemovals.settled []⟩

/-! ## Runs -/

section Runs

variable {reliability : Reliability} {initial : Store} {final : Database} {trace : List Event}
  {completion : Completion} {caller : Nat} {result : Except RegistryError Reply}

def Event.result? (caller : Nat) : Event → Option (Except RegistryError Reply)
  | returned other result => if other = caller then some result else none
  | _ => none

/-- The command that was asked in an event, with the answer it got in a trace. -/
def Event.completion? (trace : List Event) : Event → Option Completion
  | invoked caller context command =>
      (trace.findSome? (Event.result? caller)).map fun result => ⟨caller, context, command, result⟩
  | _ => none

/-- The commands that were asked and answered in a trace. -/
def completionsOf (trace : List Event) : List Completion :=
  trace.filterMap (Event.completion? trace)

theorem Event.result?_eq_some_iff {event : Event} :
    event.result? caller = some result ↔ event = .returned caller result := by
  cases event with
  | returned other found =>
      by_cases same : other = caller
      · subst same
        simp [result?]
      · simp [result?, same]
  | _ => simp [result?]

theorem Event.completion?_eq_some_iff {event : Event} :
    event.completion? trace = some completion ↔
      event = .invoked completion.caller completion.context completion.command ∧
        trace.findSome? (Event.result? completion.caller) = some completion.result := by
  cases event with
  | invoked asker context command =>
      obtain ⟨caller, asked, wanted, result⟩ := completion
      simp only [completion?, Option.map_eq_some_iff, Completion.mk.injEq, invoked.injEq]
      constructor
      · rintro ⟨found, answered, rfl, rfl, rfl, rfl⟩
        exact ⟨⟨rfl, rfl, rfl⟩, answered⟩
      · rintro ⟨⟨rfl, rfl, rfl⟩, answered⟩
        exact ⟨result, answered, rfl, rfl, rfl, rfl⟩
  | _ => simp [completion?]

theorem of_mem_completionsOf (member : completion ∈ completionsOf trace) :
    .invoked completion.caller completion.context completion.command ∈ trace ∧
      .returned completion.caller completion.result ∈ trace := by
  obtain ⟨event, happened, found⟩ := List.mem_filterMap.mp member
  obtain ⟨rfl, answered⟩ := Event.completion?_eq_some_iff.mp found
  obtain ⟨answer, returned, told⟩ := List.exists_of_findSome?_eq_some answered
  obtain rfl := Event.result?_eq_some_iff.mp told
  exact ⟨happened, returned⟩

theorem caller_mem_completionsOf
    {context : Context} {command : Command}
    (asked : .invoked caller context command ∈ trace) (answered : .returned caller result ∈ trace) :
    caller ∈ (completionsOf trace).map Completion.caller := by
  have told : (trace.findSome? (Event.result? caller)).isSome = true := by
    rw [List.findSome?_isSome_iff]
    exact ⟨_, answered, by rw [Event.result?_eq_some_iff.mpr rfl]; rfl⟩
  obtain ⟨first, found⟩ := Option.isSome_iff_exists.mp told
  apply List.mem_map.mpr
  refine ⟨⟨caller, context, command, first⟩, ?_, rfl⟩
  exact List.mem_filterMap.mpr ⟨_, asked, Event.completion?_eq_some_iff.mpr ⟨rfl, found⟩⟩

/-- Every command is asked by a caller of its own. -/
theorem Run.nodup_callers (run : Run reliability initial trace final) :
    ((completionsOf trace).map Completion.caller).Nodup := by
  have apart : trace.Pairwise fun earlier later => ∀ caller first second context command,
      earlier = .invoked caller first second → later ≠ .invoked caller context command := by
    induction run with
    | start => exact List.Pairwise.nil
    | @step trace database after event run step inductionHypothesis =>
        refine List.pairwise_append.mpr ⟨inductionHypothesis, List.pairwise_singleton _ _, ?_⟩
        rintro earlier member later last caller first second context command rfl rfl
        cases List.mem_singleton.mp last
        cases step with
        | invoked _ _ _ new => exact new _ _ member
  unfold completionsOf
  rw [List.map_filterMap, List.Nodup, List.pairwise_filterMap]
  refine apart.imp ?_
  intro earlier later different first isFirst second isSecond same
  obtain ⟨one, found, rfl⟩ := Option.map_eq_some_iff.mp isFirst
  obtain ⟨other, known, rfl⟩ := Option.map_eq_some_iff.mp isSecond
  obtain ⟨rfl, -⟩ := Event.completion?_eq_some_iff.mp found
  obtain ⟨rfl, -⟩ := Event.completion?_eq_some_iff.mp known
  exact different _ _ _ _ _ rfl (by rw [same])

/-- A run in which everybody has been answered is settled. -/
theorem Run.settled
    (run : Run reliability initial trace final)
    (answered : ∀ caller context command, .invoked caller context command ∈ trace →
      ∃ result, .returned caller result ∈ trace) :
    Settled (completionsOf trace) trace where
  distinct := run.nodup_callers
  known := by
    intro caller exchange member
    obtain ⟨before, behind, rfl⟩ := List.append_of_mem member
    obtain ⟨_, _, -, step⟩ := run.split
    cases step with
    | exchanged asked running leads answers =>
        have invoked := List.mem_append_left (.exchanged caller exchange :: behind) asked
        obtain ⟨result, returned⟩ := answered _ _ _ invoked
        exact caller_mem_completionsOf invoked returned
  yields := by
    intro completion member
    obtain ⟨asked, returned⟩ := of_mem_completionsOf member
    exact run.yields asked returned

end Runs

/-! ## Conflicts in time -/

open Simulation

/-- A write counts as a conflict exactly if the store's answer that there is one comes in time. -/
theorem Replies.isConflict_iff
    {clock after : Clock} {exchange : Exchange} (replies : Replies clock exchange after) :
    exchange.isConflict = true ↔
      ∃ bound key document expected held token milliseconds,
        exchange = ⟨.store bound (.update key document expected),
          .error (.failed (.conflict held token))⟩ ∧
        InTime clock bound milliseconds ∧
        after = { clock with now := clock.now + milliseconds } := by
  constructor
  · intro conflicts
    cases replies with
    | store bound call milliseconds outcome =>
        cases call with
        | get | create | delete => exact absurd conflicts Bool.false_ne_true
        | update key document expected =>
            rcases called : Simulation.call clock bound milliseconds outcome with
              ⟨later, cause | refused | version⟩
            · rw [called] at conflicts
              exact absurd conflicts Bool.false_ne_true
            · obtain ⟨inTime, -, rfl⟩ := call_eq_ok_iff.mp called
              rw [called] at conflicts
              cases refused with
              | conflict held token =>
                  exact ⟨bound, key, document, expected, held, token, milliseconds, rfl, inTime, rfl⟩
              | _ => exact absurd conflicts Bool.false_ne_true
            · rw [called] at conflicts
              exact absurd conflicts Bool.false_ne_true
    | service | waited | abandoned | named | counted => cases conflicts
  · rintro ⟨bound, key, document, expected, held, token, milliseconds, rfl, -, -⟩
    rfl

/-! ## The simulated world -/

namespace Simulation

section Acts

variable {α β : Type}

/-- An act counts nothing. -/
def Uncounted (act : Act α) : Prop :=
  ∀ world, (act.run.run world).2.counts = world.counts

theorem uncounted_pure (value : α) : Uncounted (pure value) :=
  fun _ => rfl

theorem uncounted_get_bind
    {next : World → Act α} (rest : ∀ world, Uncounted (next world)) :
    Uncounted (get >>= next) :=
  fun world => rest world world

theorem uncounted_modify_bind
    {change : World → World} {next : PUnit → Act α}
    (kept : ∀ world, (change world).counts = world.counts) (rest : Uncounted (next .unit)) :
    Uncounted ((modify change : Act PUnit) >>= next) :=
  fun world => (rest (change world)).trans (kept world)

theorem uncounted_elapse_bind
    {limits : Limits} {next : Unit → Act α} (milliseconds : Nat) (rest : Uncounted (next ())) :
    Uncounted (elapse limits milliseconds >>= next) := by
  intro world
  rw [run_bind, run_elapse]
  rcases limits.wait world.clock milliseconds with ⟨clock, _ | cause⟩
  · exact rest { world with clock := clock }
  · rfl

theorem uncounted_storeCall (call : StoreCall) (limits : Limits) :
    Uncounted (storeCall call limits) := by
  refine uncounted_get_bind fun world => ?_
  obtain ⟨fault, later⟩ := world.faults.next call
  refine uncounted_modify_bind (fun _ => rfl) ?_
  refine uncounted_elapse_bind _ ?_
  cases fault.failure with
  | some failure => exact uncounted_pure _
  | none =>
      refine uncounted_modify_bind (fun _ => rfl) ?_
      refine uncounted_get_bind fun between => ?_
      refine uncounted_modify_bind (fun _ => rfl) ?_
      refine uncounted_modify_bind (fun _ => rfl) ?_
      exact uncounted_elapse_bind _ (uncounted_pure _)

theorem uncounted_serviceCall (call : ServiceCall) (limits : Limits) :
    Uncounted (serviceCall call limits) := by
  intro world
  have rest : Uncounted (do
      elapse limits (serviceDelay world.runtime call)
      return serviceAnswer world.runtime world.metrics call :
        Act (Except ServiceError call.Answer)) :=
    uncounted_elapse_bind _ (uncounted_pure _)
  cases call with
  | sourceMetrics id => exact rest world
  | refreshSources key => exact rest { world with made := .refreshSources key :: world.made }
  | terminateWorkers key selector =>
      exact rest { world with made := .terminateWorkers key selector :: world.made }
  | workerActive key selector =>
      exact rest { world with made := .workerActive key selector :: world.made }

theorem counts_bounded
    {ε : Type} {act : Limits → Act (Except ε α)} (uncounted : ∀ limits, Uncounted (act limits))
    (bound : Bound) (world : World) :
    ((bounded bound act).run world).2.counts = world.counts := by
  have kept := uncounted (Limits.ofBound world.clock bound) world
  cases started : (Limits.ofBound world.clock bound).allowStart world.clock with
  | false => rw [run_bounded_of_refused act started]
  | true =>
      rw [run_bounded_of_begun act started]
      rcases ended : (act (Limits.ofBound world.clock bound)).run.run world with
        ⟨cause | error | result, after⟩
      all_goals
        rw [ended] at kept
        exact kept

theorem counts_answer (request : Request) (world : World) :
    ((answer request).run world).2.counts =
      world.counts.after [⟨request, ((answer request).run world).1⟩] := by
  cases request with
  | store bound call => exact counts_bounded (uncounted_storeCall call) bound world
  | service bound call => exact counts_bounded (uncounted_serviceCall call) bound world
  | pause duration | freshId | count counter => rfl

/-- A program that is run in the simulated world has one of its histories, and what is counted is
what this history counts. -/
theorem exists_history_counts {α : Type} (program : Program α) (world : World) :
    ∃ history,
      program.Yields history ((run program).run world).1 ∧
        ((run program).run world).2.counts = world.counts.after history := by
  induction program generalizing world with
  | done result => exact ⟨[], Program.yields_done_iff.mpr ⟨rfl, rfl⟩, rfl⟩
  | ask request next inductionHypothesis =>
      obtain ⟨history, yields, counted⟩ :=
        inductionHypothesis ((answer request).run world).1 ((answer request).run world).2
      refine ⟨⟨request, ((answer request).run world).1⟩ :: history,
        Program.yields_ask_iff.mpr ⟨_, _, rfl, yields⟩, ?_⟩
      rw [Counts.after_cons, ← counts_answer]
      exact counted

end Acts

end Simulation
end PipelineRegistry
