import PipelineRegistry.Proofs.Cancellation

/-!
# Courses of programs

A course is a history with the times at which its requests were made. How long a call takes and what
it answers is left open, and so is the instant at which the request is cancelled, so what holds of
all courses holds whatever stores and services do and whenever a client gives up. A call never takes
longer than its deadline. Whatever runs in the simulated world is a course.
-/

namespace PipelineRegistry

open Simulation

/-! ## Replies -/

/-- What is told of a call that was answered or cut off. -/
def told {α ε : Type} : Except Interruption (Except ε α) → Except (CallError ε) α
  | .ok (.ok result) => .ok result
  | .ok (.error error) => .error (.failed error)
  | .error cause => .error (.interrupted cause)

/-- How a request is answered that is made at a time, and when. A wait and a cancellation that come
at the same instant may go either way. -/
inductive Replies (clock : Clock) : Exchange → Clock → Prop
  | store (bound : Bound) (call : StoreCall) (milliseconds : Nat)
      (outcome : Except StoreError call.Answer) :
      Replies clock
        ⟨.store bound call, told (Simulation.call clock bound milliseconds outcome).2⟩
        (Simulation.call clock bound milliseconds outcome).1
  | service (bound : Bound) (call : ServiceCall) (milliseconds : Nat)
      (outcome : Except ServiceError call.Answer) :
      Replies clock
        ⟨.service bound call, told (Simulation.call clock bound milliseconds outcome).2⟩
        (Simulation.call clock bound milliseconds outcome).1
  | waited (duration : Duration)
      (unhindered : ∀ moment, clock.cancelledAt = some moment →
        clock.now + duration.ticks ≤ max clock.now moment) :
      Replies clock ⟨.pause duration, true⟩ { clock with now := clock.now + duration.ticks }
  | abandoned (duration : Duration) {moment : Nat}
      (cancelled : clock.cancelledAt = some moment)
      (early : moment ≤ clock.now + duration.ticks) :
      Replies clock ⟨.pause duration, false⟩ { clock with now := max clock.now moment }
  | named (id : String) :
      Replies clock ⟨.freshId, id⟩ clock
  | counted (counter : Counter) :
      Replies clock ⟨.count counter, ()⟩ clock

/-- The longest time that a request can take. -/
def Request.longest : Request → Nat
  | store bound _ => bound.deadline.ticks
  | service bound _ => bound.deadline.ticks
  | pause duration => duration.ticks
  | freshId | count _ => 0

/-- The longest time that the requests of a history can take. -/
def longestOf : List Exchange → Nat
  | [] => 0
  | exchange :: later => exchange.request.longest + longestOf later

theorem longestOf_append (earlier later : List Exchange) :
    longestOf (earlier ++ later) = longestOf earlier + longestOf later := by
  induction earlier with
  | nil => simp only [List.nil_append, longestOf, Nat.zero_add]
  | cons exchange rest inductionHypothesis =>
      simp only [List.cons_append, longestOf, inductionHypothesis, Nat.add_assoc]

section Calls

variable {α : Type} {clock : Clock} {bound : Bound} {milliseconds : Nat} {result : α}

theorem call_of_refused
    (refused : (Limits.ofBound clock bound).allowStart clock = false) :
    Simulation.call clock bound milliseconds result = (clock, .error .cancelled) := by
  unfold Simulation.call
  simp only [refused, Bool.false_eq_true, ↓reduceIte]

theorem call_of_begun
    (begun : (Limits.ofBound clock bound).allowStart clock = true) :
    Simulation.call clock bound milliseconds result =
      (((Limits.ofBound clock bound).wait clock milliseconds).1,
        ((Limits.ofBound clock bound).wait clock milliseconds).2.elim (.ok result) .error) := by
  unfold Simulation.call
  simp only [begun, ↓reduceIte]
  rcases (Limits.ofBound clock bound).wait clock milliseconds with ⟨after, _ | cause⟩
  · rfl
  · rfl

/-- A wait inside a call is over when the call's deadline comes. -/
theorem wait_le_deadlineAt
    {limits : Limits} (isOpen : limits.Open clock) :
    (limits.wait clock milliseconds).1.now ≤ limits.deadlineAt := by
  have early := isOpen.now_le
  unfold Limits.wait
  by_cases instant : milliseconds = 0
  · simpa only [instant, ↓reduceIte] using early
  by_cases intime : (decide (clock.now + milliseconds ≤ limits.deadlineAt) &&
      !Clock.hasCome limits.cancelledAt (clock.now + milliseconds)) = true
  · simp only [instant, ↓reduceIte, intime]
    simp only [Bool.and_eq_true, decide_eq_true_eq] at intime
    exact intime.1
  · simp only [instant, ↓reduceIte, if_neg intime]
    unfold Limits.cut
    cases limits.cancelledAt with
    | none => exact Nat.le_refl _
    | some moment =>
        by_cases before : moment ≤ limits.deadlineAt
        · simp only [before, ↓reduceIte]
        · simp only [before, ↓reduceIte, Nat.le_refl]

theorem call_cancelledAt :
    (Simulation.call clock bound milliseconds result).1.cancelledAt = clock.cancelledAt := by
  cases started : (Limits.ofBound clock bound).allowStart clock with
  | false => rw [call_of_refused started]
  | true =>
      rw [call_of_begun started]
      exact ((Limits.open_ofBound started).wait milliseconds).1

theorem le_call_now :
    clock.now ≤ (Simulation.call clock bound milliseconds result).1.now := by
  cases started : (Limits.ofBound clock bound).allowStart clock with
  | false => simp only [call_of_refused started, Nat.le_refl]
  | true =>
      rw [call_of_begun started]
      exact ((Limits.open_ofBound started).wait milliseconds).2.1

/-- No call takes longer than its deadline. -/
theorem call_now_le :
    (Simulation.call clock bound milliseconds result).1.now ≤
      clock.now + bound.deadline.ticks := by
  cases started : (Limits.ofBound clock bound).allowStart clock with
  | false =>
      rw [call_of_refused started]
      exact Nat.le_add_right _ _
  | true =>
      rw [call_of_begun started]
      exact wait_le_deadlineAt (Limits.open_ofBound started)

/-- A call is cut off by cancellation only once that has come. -/
theorem isCancelled_of_call
    (cut : (Simulation.call clock bound milliseconds result).2 = .error .cancelled) :
    (Simulation.call clock bound milliseconds result).1.isCancelled = true := by
  cases started : (Limits.ofBound clock bound).allowStart clock with
  | false =>
      rw [call_of_refused started]
      exact (Limits.allowStart_eq_false_iff.mp started).1
  | true =>
      rw [call_of_begun started] at cut ⊢
      obtain ⟨sameCancelledAt, -, -, come⟩ := (Limits.open_ofBound started).wait milliseconds
      have caused : ((Limits.ofBound clock bound).wait clock milliseconds).2 =
          some .cancelled := by
        cases found : ((Limits.ofBound clock bound).wait clock milliseconds).2 with
        | none => simp [found] at cut
        | some cause => simpa [found] using cut
      have come := come caused
      unfold Clock.isCancelled
      rw [sameCancelledAt]
      cases heeded : bound.heedsCancellation with
      | true => simpa [Limits.ofBound, heeded] using come
      | false => simp [Limits.ofBound, heeded, Clock.hasCome] at come

theorem told_eq_cancelled_iff
    {ε : Type} {ended : Except Interruption (Except ε α)} :
    told ended = .error (.interrupted .cancelled) ↔ ended = .error .cancelled := by
  rcases ended with cause | error | answer
  · simp [told]
  · simp [told]
  · simp [told]

/-! ### Answers in time -/

/-- A call that takes some milliseconds is answered by its deadline and, if it heeds cancellation,
before its request is cancelled. -/
def InTime (clock : Clock) (bound : Bound) (milliseconds : Nat) : Prop :=
  milliseconds ≤ bound.deadline.ticks ∧
    (bound.heedsCancellation = true →
      ({ clock with now := clock.now + milliseconds } : Clock).isCancelled = false)

theorem InTime.begun (inTime : InTime clock bound milliseconds) :
    (Limits.ofBound clock bound).allowStart clock = true := by
  rw [← Bool.not_eq_false, Limits.allowStart_eq_false_iff]
  rintro ⟨come, heeds⟩
  have still := inTime.2 heeds
  unfold Clock.isCancelled at still come
  cases cancelled : clock.cancelledAt with
  | none => simp [cancelled, Clock.hasCome] at come
  | some moment =>
      simp only [cancelled, Clock.hasCome, decide_eq_false_iff_not, decide_eq_true_eq] at still come
      omega

theorem InTime.wait_eq (inTime : InTime clock bound milliseconds) :
    (Limits.ofBound clock bound).wait clock milliseconds =
      ({ clock with now := clock.now + milliseconds }, none) := by
  obtain ⟨early, still⟩ := inTime
  have unhindered : Clock.hasCome (Limits.ofBound clock bound).cancelledAt
      (clock.now + milliseconds) = false := by
    cases heeds : bound.heedsCancellation with
    | false => simp [Limits.ofBound, heeds, Clock.hasCome]
    | true => simpa [Limits.ofBound, heeds, Clock.isCancelled] using still heeds
  have before : clock.now + milliseconds ≤ (Limits.ofBound clock bound).deadlineAt :=
    Nat.add_le_add_left early _
  unfold Limits.wait
  by_cases instant : milliseconds = 0
  · subst instant
    rfl
  · simp [instant, before, unhindered]

theorem inTime_of_wait
    (begun : (Limits.ofBound clock bound).allowStart clock = true)
    (waited : ((Limits.ofBound clock bound).wait clock milliseconds).2 = none) :
    InTime clock bound milliseconds := by
  unfold Limits.wait at waited
  by_cases instant : milliseconds = 0
  · subst instant
    refine ⟨Nat.zero_le _, fun heeds => ?_⟩
    change clock.isCancelled = false
    rw [← Bool.not_eq_true]
    intro come
    rw [Limits.allowStart_eq_false_iff.mpr ⟨come, heeds⟩] at begun
    cases begun
  · simp only [instant, ↓reduceIte] at waited
    split at waited
    · rename_i both
      simp only [Bool.and_eq_true, decide_eq_true_eq, Bool.not_eq_true'] at both
      refine ⟨Nat.le_of_add_le_add_left both.1, fun heeds => ?_⟩
      simpa [Limits.ofBound, heeds, Clock.isCancelled] using both.2
    · cases waited

/-- A call gives what it is answered exactly if the answer is there in time. -/
theorem call_eq_ok_iff {after : Clock} {value : α} :
    Simulation.call clock bound milliseconds result = (after, .ok value) ↔
      InTime clock bound milliseconds ∧ value = result ∧
        after = { clock with now := clock.now + milliseconds } := by
  constructor
  · intro called
    cases started : (Limits.ofBound clock bound).allowStart clock with
    | false =>
        rw [call_of_refused started] at called
        cases called
    | true =>
        rw [call_of_begun started] at called
        have waited : ((Limits.ofBound clock bound).wait clock milliseconds).2 = none := by
          cases found : ((Limits.ofBound clock bound).wait clock milliseconds).2 with
          | none => rfl
          | some cause =>
              rw [found] at called
              cases called
        have inTime := inTime_of_wait started waited
        rw [inTime.wait_eq] at called
        cases called
        exact ⟨inTime, rfl, rfl⟩
  · rintro ⟨inTime, rfl, rfl⟩
    rw [call_of_begun inTime.begun, inTime.wait_eq]
    rfl

end Calls

namespace Replies

variable {clock after : Clock} {exchange : Exchange}

theorem cancelledAt_eq (replies : Replies clock exchange after) :
    after.cancelledAt = clock.cancelledAt := by
  cases replies with
  | store | service => exact call_cancelledAt
  | _ => rfl

theorem le_now (replies : Replies clock exchange after) : clock.now ≤ after.now := by
  cases replies with
  | store | service => exact le_call_now
  | waited => exact Nat.le_add_right _ _
  | abandoned => exact Nat.le_max_left _ _
  | named | counted => exact Nat.le_refl _

theorem now_le (replies : Replies clock exchange after) :
    after.now ≤ clock.now + exchange.request.longest := by
  cases replies with
  | store | service => exact call_now_le
  | waited => exact Nat.le_refl _
  | abandoned duration cancelled early =>
      exact Nat.max_le.mpr ⟨Nat.le_add_right _ _, early⟩
  | named | counted => exact Nat.le_refl _

/-- A request that has been cancelled stays so. -/
theorem isCancelled (replies : Replies clock exchange after)
    (was : clock.isCancelled = true) : after.isCancelled = true := by
  have later := replies.le_now
  unfold Clock.isCancelled at was ⊢
  rw [replies.cancelledAt_eq]
  cases cancelled : clock.cancelledAt with
  | none => simp [cancelled, Clock.hasCome] at was
  | some moment =>
      simp only [cancelled, Clock.hasCome, decide_eq_true_eq] at was ⊢
      exact Nat.le_trans was later

/-- What is not begun is answered as cancelled. -/
theorem refused (replies : Replies clock exchange after)
    (unbegun : exchange.request.isBegun clock = false) :
    exchange.isCancelled = true := by
  cases replies with
  | store bound call milliseconds outcome =>
      rw [Exchange.isCancelled_store_iff, told_eq_cancelled_iff, call_of_refused unbegun]
  | service bound call milliseconds outcome =>
      rw [Exchange.isCancelled_service_iff, told_eq_cancelled_iff, call_of_refused unbegun]
  | waited | abandoned | named | counted => cases unbegun

/-- What is answered as cancelled has been cancelled. -/
theorem come (replies : Replies clock exchange after) (cut : exchange.isCancelled = true) :
    after.isCancelled = true := by
  cases replies with
  | store bound call milliseconds outcome =>
      rw [Exchange.isCancelled_store_iff, told_eq_cancelled_iff] at cut
      exact isCancelled_of_call cut
  | service bound call milliseconds outcome =>
      rw [Exchange.isCancelled_service_iff, told_eq_cancelled_iff] at cut
      exact isCancelled_of_call cut
  | abandoned duration cancelled early =>
      simp only [Clock.isCancelled, cancelled, Clock.hasCome, decide_eq_true_eq]
      exact Nat.le_max_right _ _
  | waited | named | counted => cases cut

end Replies

/-! ## Timed histories -/

/-- The moments of a request, from one time to another. It may be cancelled at an instant that the
clock knows, or between any two of its exchanges. -/
inductive Timed : Clock → List Moment → Clock → Prop
  | done (clock : Clock) :
      Timed clock [] clock
  | exchange {clock after final : Clock} {exchange : Exchange} {moments : List Moment}
      (replies : Replies clock exchange after) (rest : Timed after moments final) :
      Timed clock (⟨clock, exchange⟩ :: moments) final
  | fires {clock final : Clock} {moments : List Moment} (pending : clock.isCancelled = false)
      (rest : Timed { clock with cancelledAt := some clock.now } moments final) :
      Timed clock moments final

/-- A course of a program is a history that leads to its result, in time. -/
structure Course {α : Type} (clock : Clock) (program : Program α) (moments : List Moment)
    (final : Clock) (result : α) : Prop where
  yields : program.Yields (moments.map Moment.exchange) result
  timed : Timed clock moments final

namespace Timed

variable {clock final : Clock} {moments : List Moment}

/-- Cancellation shows in timed histories as `Heeds` says, and if the request has been cancelled
before, then in all of their moments. -/
theorem heeds (timed : Timed clock moments final) :
    Heeds moments ∧
      (clock.isCancelled = true → ∀ moment ∈ moments, moment.cancelled = true) := by
  induction timed with
  | done clock => exact ⟨Heeds.nil, by simp⟩
  | exchange replies rest inductionHypothesis =>
      obtain ⟨heeds, still⟩ := inductionHypothesis
      refine ⟨heeds.cons (fun was => still (replies.isCancelled was)) replies.refused
        (fun cut => still (replies.come cut)), ?_⟩
      intro was
      exact List.forall_mem_cons.mpr ⟨was, still (replies.isCancelled was)⟩
  | fires pending rest inductionHypothesis =>
      refine ⟨inductionHypothesis.1, ?_⟩
      intro was
      rw [was] at pending
      cases pending

theorem isCancelled (timed : Timed clock moments final) (was : clock.isCancelled = true) :
    final.isCancelled = true := by
  induction timed with
  | done clock => exact was
  | exchange replies rest inductionHypothesis =>
      exact inductionHypothesis (replies.isCancelled was)
  | fires pending rest inductionHypothesis =>
      rw [was] at pending
      cases pending

/-- Nothing is cut off by cancellation in a request that is never cancelled. -/
theorem isCancelled_eq_false
    (timed : Timed clock moments final) (never : final.isCancelled = false) :
    ∀ moment ∈ moments, moment.exchange.isCancelled = false := by
  induction timed with
  | done clock => simp
  | exchange replies rest inductionHypothesis =>
      refine List.forall_mem_cons.mpr ⟨?_, inductionHypothesis never⟩
      apply Bool.eq_false_iff.mpr
      intro cut
      rw [rest.isCancelled (replies.come cut)] at never
      cases never
  | fires pending rest inductionHypothesis => exact inductionHypothesis never

/-- Time passes only within requests. -/
theorem now_le (timed : Timed clock moments final) :
    final.now ≤ clock.now + longestOf (moments.map Moment.exchange) := by
  induction timed with
  | done clock => exact Nat.le_refl _
  | exchange replies rest inductionHypothesis =>
      have first := replies.now_le
      simp only [List.map_cons, longestOf]
      omega
  | fires pending rest inductionHypothesis => exact inductionHypothesis

end Timed

/-! ## The simulated world -/

namespace Simulation

/-- Two waits of one call are as good as one. -/
theorem wait_add (limits : Limits) (clock : Clock) (first second : Nat) :
    limits.wait clock (first + second) =
      match limits.wait clock first with
      | (after, none) => limits.wait after second
      | (after, some cause) => (after, some cause) := by
  by_cases instant : first = 0
  · subst instant
    rw [Nat.zero_add]
    rfl
  have never : first + second ≠ 0 := by omega
  by_cases intime : (decide (clock.now + first ≤ limits.deadlineAt) &&
      !Clock.hasCome limits.cancelledAt (clock.now + first)) = true
  · -- the second wait begins where the first one has ended
    have waited : limits.wait clock first =
        ({ clock with now := clock.now + first }, none) := by
      simp only [Limits.wait, instant, ↓reduceIte, intime]
    rw [waited]
    by_cases none : second = 0
    · subst none
      rw [Nat.add_zero, waited]
      rfl
    · simp only [Limits.wait, never, none, ↓reduceIte, Nat.add_assoc]
  · -- the first wait is cut off, so the longer one is cut off at the same instant
    have late : ¬ (decide (clock.now + (first + second) ≤ limits.deadlineAt) &&
        !Clock.hasCome limits.cancelledAt (clock.now + (first + second))) = true := by
      intro later
      apply intime
      simp only [Bool.and_eq_true, decide_eq_true_eq, Bool.not_eq_true'] at later ⊢
      refine ⟨by omega, ?_⟩
      cases cancelled : limits.cancelledAt with
      | none => rfl
      | some moment =>
          simp only [cancelled, Clock.hasCome, decide_eq_false_iff_not] at later ⊢
          omega
    simp only [Limits.wait, instant, never, ↓reduceIte, if_neg intime, if_neg late]

/-- An act takes some time of its call. If it is not cut off, then it has an outcome. -/
def Takes {α : Type} (limits : Limits) (act : Act α) : Prop :=
  ∀ world, ∃ milliseconds outcome,
    (act.run.run world).2.clock = (limits.wait world.clock milliseconds).1 ∧
      (act.run.run world).1 =
        (limits.wait world.clock milliseconds).2.elim (.ok outcome) .error

section Acts

variable {α : Type} {limits : Limits}

theorem takes_pure (value : α) : Takes limits (pure value) := by
  intro world
  exact ⟨0, value, rfl, rfl⟩

theorem takes_get_bind
    {next : World → Act α} (rest : ∀ world, Takes limits (next world)) :
    Takes limits (get >>= next) :=
  fun world => rest world world

theorem takes_modify_bind
    {change : World → World} {next : PUnit → Act α}
    (untimed : ∀ world, (change world).clock = world.clock) (rest : Takes limits (next .unit)) :
    Takes limits ((modify change : Act PUnit) >>= next) := by
  intro world
  obtain ⟨milliseconds, outcome, clock, ended⟩ := rest (change world)
  rw [untimed] at clock ended
  exact ⟨milliseconds, outcome, clock, ended⟩

theorem takes_elapse_bind
    {next : Unit → Act α} (milliseconds : Nat) (rest : Takes limits (next ())) :
    Takes limits (elapse limits milliseconds >>= next) := by
  intro world
  have passed := run_elapse limits milliseconds world
  obtain ⟨more, outcome, clock, ended⟩ :=
    rest { world with clock := (limits.wait world.clock milliseconds).1 }
  refine ⟨milliseconds + more, outcome, ?_⟩
  rw [run_bind, passed, wait_add]
  rcases waited : limits.wait world.clock milliseconds with ⟨after, _ | cause⟩
  · rw [waited] at clock ended
    exact ⟨clock, ended⟩
  · exact ⟨rfl, rfl⟩

theorem takes_storeCall (call : StoreCall) (limits : Limits) :
    Takes limits (storeCall call limits) := by
  refine takes_get_bind fun world => ?_
  obtain ⟨fault, later⟩ := world.faults.next call
  refine takes_modify_bind (fun _ => rfl) ?_
  refine takes_elapse_bind _ ?_
  cases fault.failure with
  | some failure => exact takes_pure _
  | none =>
      refine takes_modify_bind (fun _ => rfl) ?_
      refine takes_get_bind fun between => ?_
      refine takes_modify_bind (fun _ => rfl) ?_
      refine takes_modify_bind (fun _ => rfl) ?_
      exact takes_elapse_bind _ (takes_pure _)

theorem takes_serviceCall (call : ServiceCall) (limits : Limits) :
    Takes limits (serviceCall call limits) := by
  intro world
  have rest : Takes limits (do
      elapse limits (serviceDelay world.runtime call)
      return serviceAnswer world.runtime world.metrics call :
        Act (Except ServiceError call.Answer)) :=
    takes_elapse_bind _ (takes_pure _)
  -- that a call is noted takes no time
  cases call with
  | sourceMetrics id => exact rest world
  | refreshSources key => exact rest { world with made := .refreshSources key :: world.made }
  | terminateWorkers key selector =>
      exact rest { world with made := .terminateWorkers key selector :: world.made }
  | workerActive key selector =>
      exact rest { world with made := .workerActive key selector :: world.made }

/-- A call that is made within its bound is one call of the clock. -/
theorem exists_call_of_bounded
    {ε : Type} {act : Limits → Act (Except ε α)}
    (takes : ∀ limits, Takes limits (act limits)) (bound : Bound) (world : World) :
    ∃ milliseconds outcome,
      ((bounded bound act).run world).1 =
          told (Simulation.call world.clock bound milliseconds outcome).2 ∧
        ((bounded bound act).run world).2.clock =
          (Simulation.call world.clock bound milliseconds outcome).1 := by
  obtain ⟨milliseconds, outcome, clock, ended⟩ := takes (Limits.ofBound world.clock bound) world
  refine ⟨milliseconds, outcome, ?_⟩
  cases started : (Limits.ofBound world.clock bound).allowStart world.clock with
  | false =>
      rw [run_bounded_of_refused act started, call_of_refused started]
      exact ⟨rfl, rfl⟩
  | true =>
      rw [run_bounded_of_begun act started, call_of_begun started]
      dsimp only
      rw [← clock, ← ended]
      rcases (act (Limits.ofBound world.clock bound)).run.run world with
        ⟨cause | error | result, after⟩
      · exact ⟨rfl, rfl⟩
      · exact ⟨rfl, rfl⟩
      · exact ⟨rfl, rfl⟩

end Acts

theorem replies_pause (clock : Clock) (duration : Duration) :
    Replies clock ⟨.pause duration, (clock.pause duration).2⟩ (clock.pause duration).1 := by
  obtain ⟨now, cancelledAt⟩ := clock
  cases cancelledAt with
  | none => exact Replies.waited duration fun moment impossible => nomatch impossible
  | some moment =>
      by_cases before : moment ≤ now + duration.ticks
      · simp only [Clock.pause, before, ↓reduceIte]
        exact Replies.abandoned duration rfl before
      · simp only [Clock.pause, before, ↓reduceIte]
        refine Replies.waited duration ?_
        intro known same
        obtain rfl := Option.some.inj same
        simp only
        omega

theorem replies_answer (request : Request) (world : World) :
    Replies world.clock ⟨request, ((answer request).run world).1⟩
      ((answer request).run world).2.clock := by
  cases request with
  | store bound call =>
      obtain ⟨milliseconds, outcome, ended, clock⟩ :=
        exists_call_of_bounded (takes_storeCall call) bound world
      have answered : Replies world.clock _ _ :=
        Replies.store bound call milliseconds outcome
      rw [← ended, ← clock] at answered
      exact answered
  | service bound call =>
      obtain ⟨milliseconds, outcome, ended, clock⟩ :=
        exists_call_of_bounded (takes_serviceCall call) bound world
      have answered : Replies world.clock _ _ :=
        Replies.service bound call milliseconds outcome
      rw [← ended, ← clock] at answered
      exact answered
  | pause duration => exact replies_pause world.clock duration
  | freshId => exact Replies.named _
  | count counter => exact Replies.counted counter

/-- A program that is run in the simulated world takes one of its courses. -/
theorem exists_course {α : Type} (program : Program α) (world : World) :
    ∃ moments,
      Course world.clock program moments ((run program).run world).2.clock
        ((run program).run world).1 := by
  induction program generalizing world with
  | done result =>
      exact ⟨[], Program.yields_done_iff.mpr ⟨rfl, rfl⟩, Timed.done world.clock⟩
  | ask request next inductionHypothesis =>
      obtain ⟨moments, yields, timed⟩ :=
        inductionHypothesis ((answer request).run world).1 ((answer request).run world).2
      exact ⟨_, Program.yields_ask_iff.mpr ⟨_, _, rfl, yields⟩,
        Timed.exchange (replies_answer request world) timed⟩

end Simulation

end PipelineRegistry
