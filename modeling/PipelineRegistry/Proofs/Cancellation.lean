import PipelineRegistry.Proofs.History
import PipelineRegistry.Simulation.World

/-!
# Cancelled requests

A client may cancel its request at any instant. What the request's program has done is then a list
of moments, each with an exchange and with the clock at the time of the exchange, which knows what
had become of the request. `Heeds` says how cancellation shows in such a list: it is final, calls
that heed it are not begun any more, and nothing is cut off by it before it has come. The simulated
world keeps to it, stays as it is when a call is not begun, and lists exactly the calls that have
been begun.
-/

namespace PipelineRegistry

open Simulation

/-! ## Requests that are begun -/

def Request.heedsCancellation : Request → Bool
  | store bound _ => bound.heedsCancellation
  | service bound _ => bound.heedsCancellation
  | pause _ | freshId | count _ => false

/-- A call that is made now is begun if its limits allow it to start. What is no call is always
begun. -/
def Request.isBegun (clock : Clock) : Request → Bool
  | store bound _ => (Limits.ofBound clock bound).allowStart clock
  | service bound _ => (Limits.ofBound clock bound).allowStart clock
  | pause _ | freshId | count _ => true

theorem Simulation.Limits.allowStart_eq_false_iff {clock : Clock} {bound : Bound} :
    (Limits.ofBound clock bound).allowStart clock = false ↔
      clock.isCancelled = true ∧ bound.heedsCancellation = true := by
  unfold Limits.allowStart Limits.ofBound Clock.isCancelled
  cases bound.heedsCancellation with
  | true => simp
  | false => simp [Clock.hasCome]

theorem Request.isBegun_eq_false_iff {clock : Clock} {request : Request} :
    request.isBegun clock = false ↔
      clock.isCancelled = true ∧ request.heedsCancellation = true := by
  cases request with
  | store bound call | service bound call => exact Limits.allowStart_eq_false_iff
  | pause duration | freshId | count counter => simp [isBegun, heedsCancellation]

/-! ## Moments of a request -/

/-- An exchange, and the clock at the time when its request was made. -/
structure Moment where
  clock : Clock
  exchange : Exchange

/-- A call or a wait has come to its end because the request was cancelled. -/
def Exchange.isCancelled : Exchange → Bool
  | ⟨.store _ _, .error (.interrupted .cancelled)⟩ => true
  | ⟨.service _ _, .error (.interrupted .cancelled)⟩ => true
  | ⟨.pause _, false⟩ => true
  | _ => false

theorem Exchange.isCancelled_store_iff
    {bound : Bound} {call : StoreCall} {answer : Except (CallError StoreError) call.Answer} :
    (⟨.store bound call, answer⟩ : Exchange).isCancelled = true ↔
      answer = .error (.interrupted .cancelled) := by
  rcases answer with (error | _ | _) | result
  all_goals simp [isCancelled]

theorem Exchange.isCancelled_service_iff
    {bound : Bound} {call : ServiceCall} {answer : Except (CallError ServiceError) call.Answer} :
    (⟨.service bound call, answer⟩ : Exchange).isCancelled = true ↔
      answer = .error (.interrupted .cancelled) := by
  rcases answer with (error | _ | _) | result
  all_goals simp [isCancelled]

/-- Of the answers to a request, one at most says that it was cancelled. -/
theorem Exchange.answer_eq_of_isCancelled
    {request : Request} {first second : request.Answer}
    (firstCancelled : (⟨request, first⟩ : Exchange).isCancelled = true)
    (secondCancelled : (⟨request, second⟩ : Exchange).isCancelled = true) :
    first = second := by
  cases request with
  | store bound call =>
      rw [isCancelled_store_iff] at firstCancelled secondCancelled
      rw [firstCancelled, secondCancelled]
  | service bound call =>
      rw [isCancelled_service_iff] at firstCancelled secondCancelled
      rw [firstCancelled, secondCancelled]
  | pause duration =>
      cases first with
      | true => cases firstCancelled
      | false =>
          cases second with
          | true => cases secondCancelled
          | false => rfl
  | freshId | count counter => cases firstCancelled

/-- The call to a service that a program has asked for. -/
def Exchange.serviceCall? : Exchange → Option ServiceCall
  | ⟨.service _ call, _⟩ => some call
  | _ => none

namespace Moment

/-- The client had cancelled by then. -/
def cancelled (moment : Moment) : Bool :=
  moment.clock.isCancelled

/-- The exchange has been begun, and not merely asked for. -/
def isBegun (moment : Moment) : Bool :=
  moment.exchange.request.isBegun moment.clock

/-- The call to a service that has been begun, and not merely asked for. -/
def begun? (moment : Moment) : Option ServiceCall :=
  if moment.isBegun then moment.exchange.serviceCall? else none

end Moment

/-- How cancellation shows in the moments of one request. -/
structure Heeds (moments : List Moment) : Prop where
  final : moments.Pairwise fun earlier later => earlier.cancelled → later.cancelled
  refused : ∀ moment ∈ moments, moment.isBegun = false → moment.exchange.isCancelled
  come : moments.Pairwise fun earlier later =>
    earlier.exchange.isCancelled → later.cancelled

theorem Heeds.nil : Heeds [] :=
  ⟨List.Pairwise.nil, by simp, List.Pairwise.nil⟩

theorem Heeds.cons
    {first : Moment} {rest : List Moment} (heeds : Heeds rest)
    (final : first.cancelled → ∀ moment ∈ rest, moment.cancelled)
    (refused : first.isBegun = false → first.exchange.isCancelled)
    (come : first.exchange.isCancelled → ∀ moment ∈ rest, moment.cancelled) :
    Heeds (first :: rest) where
  final := List.pairwise_cons.mpr ⟨fun moment member was => final was moment member, heeds.final⟩
  refused := List.forall_mem_cons.mpr ⟨refused, heeds.refused⟩
  come := List.pairwise_cons.mpr ⟨fun moment member was => come was moment member, heeds.come⟩

/-! ## The simulated world -/

namespace Simulation

/-! ### Acts within limits -/

/-- Neither limit of a call has come. -/
structure Limits.Open (limits : Limits) (clock : Clock) : Prop where
  now_le : clock.now ≤ limits.deadlineAt
  running : Clock.hasCome limits.cancelledAt clock.now = false

/-- When a call may start, neither of its limits has come. -/
theorem Limits.open_ofBound
    {clock : Clock} {bound : Bound}
    (begun : (Limits.ofBound clock bound).allowStart clock = true) :
    (Limits.ofBound clock bound).Open clock :=
  ⟨Nat.le_add_right _ _, by simpa [Limits.allowStart] using begun⟩

/-- A wait ends at its time with both limits open, or it is cut off at the earlier one. -/
theorem Limits.Open.wait
    {limits : Limits} {clock : Clock} (isOpen : limits.Open clock) (milliseconds : Nat) :
    (limits.wait clock milliseconds).1.cancelledAt = clock.cancelledAt ∧
      clock.now ≤ (limits.wait clock milliseconds).1.now ∧
      ((limits.wait clock milliseconds).2 = none →
        limits.Open (limits.wait clock milliseconds).1) ∧
      ((limits.wait clock milliseconds).2 = some .cancelled →
        Clock.hasCome limits.cancelledAt (limits.wait clock milliseconds).1.now = true) := by
  have early := isOpen.now_le
  have running := isOpen.running
  unfold Limits.wait
  by_cases instant : milliseconds = 0
  · simp only [instant, ↓reduceIte]
    exact ⟨trivial, Nat.le_refl _, fun _ => isOpen, fun impossible => nomatch impossible⟩
  by_cases intime : (decide (clock.now + milliseconds ≤ limits.deadlineAt) &&
      !Clock.hasCome limits.cancelledAt (clock.now + milliseconds)) = true
  · simp only [instant, ↓reduceIte, intime]
    simp only [Bool.and_eq_true, decide_eq_true_eq, Bool.not_eq_true'] at intime
    exact ⟨trivial, Nat.le_add_right _ _, fun _ => ⟨intime.1, intime.2⟩,
      fun impossible => nomatch impossible⟩
  · simp only [instant, ↓reduceIte, if_neg intime, true_and, reduceCtorEq, false_implies]
    unfold Limits.cut
    cases cancelled : limits.cancelledAt with
    | none => exact ⟨early, fun impossible => nomatch impossible⟩
    | some moment =>
        simp only [cancelled, Clock.hasCome, decide_eq_false_iff_not] at running
        by_cases before : moment ≤ limits.deadlineAt
        · simp only [before, ↓reduceIte, Clock.hasCome, Nat.le_refl, decide_true, implies_true,
            and_true]
          omega
        · simp only [before, ↓reduceIte]
          exact ⟨early, fun impossible => nomatch impossible⟩

/-- An act within limits takes time, leaves the limits open unless it is cut off, and lists
calls to the runtime. -/
structure Passes {α : Type} (limits : Limits) (listed : List ServiceCall) (world : World)
    (ended : Except Interruption α × World) : Prop where
  cancelledAt_eq : ended.2.clock.cancelledAt = world.clock.cancelledAt
  now_le : world.clock.now ≤ ended.2.clock.now
  made_eq : ended.2.made = listed ++ world.made
  stays : ∀ result, ended.1 = .ok result → limits.Open ended.2.clock
  cut : ended.1 = .error .cancelled →
    Clock.hasCome limits.cancelledAt ended.2.clock.now = true

def Within {α : Type} (limits : Limits) (listed : List ServiceCall) (act : Act α) : Prop :=
  ∀ world, limits.Open world.clock → Passes limits listed world (act.run.run world)

section Acts

variable {α β : Type} {limits : Limits} {listed : List ServiceCall}

theorem within_pure (value : α) : Within limits [] (pure value) := by
  intro world isOpen
  exact ⟨rfl, Nat.le_refl _, rfl, fun _ _ => isOpen, fun impossible => nomatch impossible⟩

theorem run_bind (act : Act α) (next : α → Act β) (world : World) :
    (act >>= next).run.run world =
      match act.run.run world with
      | (.ok value, after) => (next value).run.run after
      | (.error cause, after) => (.error cause, after) := by
  change (ExceptT.run act >>= ExceptT.bindCont next).run world = _
  rw [StateT.run_bind]
  rcases ended : act.run.run world with ⟨cause | value, after⟩
  · rfl
  · rfl

theorem Within.bind
    {act : Act α} {next : α → Act β}
    (first : Within limits listed act) (second : ∀ value, Within limits [] (next value)) :
    Within limits listed (act >>= next) := by
  intro world isOpen
  have passed := first world isOpen
  rw [run_bind]
  rcases ended : act.run.run world with ⟨cause | value, after⟩
  · rw [ended] at passed
    refine ⟨passed.cancelledAt_eq, passed.now_le, passed.made_eq, ?_, ?_⟩
    · exact fun _ impossible => nomatch impossible
    · intro cut
      obtain rfl := Except.error.inj cut
      exact passed.cut rfl
  · rw [ended] at passed
    have behind := second value after (passed.stays value rfl)
    exact ⟨behind.cancelledAt_eq.trans passed.cancelledAt_eq,
      Nat.le_trans passed.now_le behind.now_le, behind.made_eq.trans passed.made_eq,
      behind.stays, behind.cut⟩

/-- What takes no time. -/
theorem within_modify
    {change : World → World} (clock : ∀ world, (change world).clock = world.clock)
    (made : ∀ world, (change world).made = listed ++ world.made) :
    Within limits listed (modify change : Act PUnit) := by
  intro world isOpen
  change Passes limits listed world (.ok PUnit.unit, change world)
  refine ⟨by rw [clock], Nat.le_of_eq (by rw [clock]), made world, ?_, ?_⟩
  · intro _ _
    rw [clock]
    exact isOpen
  · exact fun impossible => nomatch impossible

theorem within_get_bind
    {next : World → Act β} (rest : ∀ world, Within limits listed (next world)) :
    Within limits listed (get >>= next) :=
  fun world isOpen => rest world world isOpen

theorem run_elapse (limits : Limits) (milliseconds : Nat) (world : World) :
    (elapse limits milliseconds).run.run world =
      ((limits.wait world.clock milliseconds).2.elim (.ok ()) .error,
        { world with clock := (limits.wait world.clock milliseconds).1 }) := by
  have got : (get : Act World).run.run world = (.ok world, world) := rfl
  unfold elapse
  rw [run_bind, got]
  dsimp only
  rcases limits.wait world.clock milliseconds with ⟨clock, _ | cause⟩
  · rfl
  · rfl

theorem within_elapse (limits : Limits) (milliseconds : Nat) :
    Within limits [] (elapse limits milliseconds) := by
  intro world isOpen
  rw [run_elapse]
  obtain ⟨sameCancelledAt, later, stays, cut⟩ := isOpen.wait milliseconds
  refine ⟨sameCancelledAt, later, rfl, ?_, ?_⟩
  · intro result same
    apply stays
    cases caused : (limits.wait world.clock milliseconds).2 with
    | none => rfl
    | some cause => simp [caused] at same
  · intro same
    apply cut
    cases caused : (limits.wait world.clock milliseconds).2 with
    | none => simp [caused] at same
    | some cause => simpa [caused] using same

theorem within_interfere (key : PipelineKey) (actions : List RivalAction) :
    Within limits [] (interfere key actions) :=
  within_modify (fun _ => rfl) fun _ => rfl

theorem within_storeCall (call : StoreCall) (limits : Limits) :
    Within limits [] (storeCall call limits) := by
  refine within_get_bind fun world => ?_
  obtain ⟨fault, later⟩ := world.faults.next call
  refine Within.bind (within_modify ?_ ?_) fun _ => ?_
  · exact fun _ => rfl
  · exact fun _ => rfl
  refine Within.bind (within_elapse limits _) fun _ => ?_
  cases fault.failure with
  | some failure => exact within_pure _
  | none =>
      refine Within.bind (within_interfere _ _) fun _ => ?_
      refine within_get_bind fun between => ?_
      refine Within.bind (within_modify ?_ ?_) fun _ => ?_
      · exact fun _ => rfl
      · exact fun _ => rfl
      refine Within.bind (within_interfere _ _) fun _ => ?_
      exact Within.bind (within_elapse limits _) fun _ => within_pure _

theorem within_serviceCall (call : ServiceCall) (limits : Limits) :
    Within limits (if isListed call then [call] else []) (serviceCall call limits) := by
  intro world isOpen
  have rest : Within limits [] (do
      elapse limits (serviceDelay world.runtime call)
      return serviceAnswer world.runtime world.metrics call :
        Act (Except ServiceError call.Answer)) :=
    (within_elapse limits _).bind fun _ => within_pure _
  have begun (made : List ServiceCall) := rest { world with made := made } isOpen
  cases call with
  | sourceMetrics id =>
      obtain ⟨sameCancelledAt, later, made, stays, cut⟩ := begun world.made
      exact ⟨sameCancelledAt, later, made, stays, cut⟩
  | refreshSources key =>
      obtain ⟨sameCancelledAt, later, made, stays, cut⟩ :=
        begun (.refreshSources key :: world.made)
      exact ⟨sameCancelledAt, later, made, stays, cut⟩
  | terminateWorkers key selector =>
      obtain ⟨sameCancelledAt, later, made, stays, cut⟩ :=
        begun (.terminateWorkers key selector :: world.made)
      exact ⟨sameCancelledAt, later, made, stays, cut⟩
  | workerActive key selector =>
      obtain ⟨sameCancelledAt, later, made, stays, cut⟩ :=
        begun (.workerActive key selector :: world.made)
      exact ⟨sameCancelledAt, later, made, stays, cut⟩

end Acts

/-! ### Requests -/

/-- What becomes of a world when it answers a request. -/
structure Answered (world : World) (exchange : Exchange) (after : World) : Prop where
  cancelledAt_eq : after.clock.cancelledAt = world.clock.cancelledAt
  now_le : world.clock.now ≤ after.clock.now
  calls_eq : after.calls =
    world.calls ++ ((⟨world.clock, exchange⟩ : Moment).begun?.filter isListed).toList
  refused : exchange.request.isBegun world.clock = false → exchange.isCancelled
  untouched : exchange.request.isBegun world.clock = false → after = world
  come : exchange.isCancelled → after.clock.isCancelled

section Bounded

variable {α ε : Type} {listed : List ServiceCall} {bound : Bound} {world : World}
  (act : Limits → Act (Except ε α))

/-- A call that may not start is answered as cancelled, and nothing has come of it. -/
theorem run_bounded_of_refused
    (refused : (Limits.ofBound world.clock bound).allowStart world.clock = false) :
    (bounded bound act).run world = (.error (.interrupted .cancelled), world) := by
  change (if (Limits.ofBound world.clock bound).allowStart world.clock = true then _ else _ :
    StateM World _).run world = _
  rw [refused]
  rfl

theorem run_bounded_of_begun
    (begun : (Limits.ofBound world.clock bound).allowStart world.clock = true) :
    (bounded bound act).run world =
      match (act (Limits.ofBound world.clock bound)).run.run world with
      | (.ok (.ok result), after) => (.ok result, after)
      | (.ok (.error error), after) => (.error (.failed error), after)
      | (.error cause, after) => (.error (.interrupted cause), after) := by
  change (if (Limits.ofBound world.clock bound).allowStart world.clock = true then _ else _ :
    StateM World _).run world = _
  rw [if_pos begun, StateT.run_bind]
  rcases (act (Limits.ofBound world.clock bound)).run.run world with
    ⟨cause | error | result, after⟩
  · rfl
  · rfl
  · rfl

/-- A call that is begun leaves the clock right, lists what it is, and is cut off by
cancellation only once that has come. -/
theorem passes_bounded
    {act : Limits → Act (Except ε α)}
    (within : ∀ limits, Within limits listed (act limits))
    (begun : (Limits.ofBound world.clock bound).allowStart world.clock = true) :
    ((bounded bound act).run world).2.clock.cancelledAt = world.clock.cancelledAt ∧
      world.clock.now ≤ ((bounded bound act).run world).2.clock.now ∧
      ((bounded bound act).run world).2.made = listed ++ world.made ∧
      (((bounded bound act).run world).1 = .error (.interrupted .cancelled) →
        ((bounded bound act).run world).2.clock.isCancelled = true) := by
  obtain ⟨sameCancelledAt, later, made, -, cut⟩ := within _ world (Limits.open_ofBound begun)
  rw [run_bounded_of_begun act begun]
  rcases ended : (act (Limits.ofBound world.clock bound)).run.run world with
    ⟨cause | error | result, after⟩
  · rw [ended] at sameCancelledAt later made cut
    refine ⟨sameCancelledAt, later, made, ?_⟩
    intro same
    have come := cut (by simpa using same)
    simp only at sameCancelledAt come
    unfold Clock.isCancelled
    rw [sameCancelledAt]
    cases heeded : bound.heedsCancellation with
    | true => simpa [Limits.ofBound, heeded] using come
    | false => simp [Limits.ofBound, heeded, Clock.hasCome] at come
  · rw [ended] at sameCancelledAt later made
    exact ⟨sameCancelledAt, later, made, fun impossible => nomatch impossible⟩
  · rw [ended] at sameCancelledAt later made
    exact ⟨sameCancelledAt, later, made, fun impossible => nomatch impossible⟩

/-- A call that is made within its bound is answered as `Answered` says, whether or not it is
begun. -/
theorem answered_bounded
    {act : Limits → Act (Except ε α)} {exchange : Exchange}
    (within : ∀ limits, Within limits (exchange.serviceCall?.filter isListed).toList (act limits))
    (starts : exchange.request.isBegun world.clock =
      (Limits.ofBound world.clock bound).allowStart world.clock)
    (cancelled : exchange.isCancelled = true ↔
      ((bounded bound act).run world).1 = .error (.interrupted .cancelled)) :
    Answered world exchange ((bounded bound act).run world).2 := by
  cases started : (Limits.ofBound world.clock bound).allowStart world.clock with
  | false =>
      rw [run_bounded_of_refused act started] at cancelled ⊢
      refine ⟨rfl, Nat.le_refl _, ?_, fun _ => cancelled.mpr rfl, fun _ => rfl, fun _ => ?_⟩
      · have unbegun : (⟨world.clock, exchange⟩ : Moment).begun? = none := by
          simp [Moment.begun?, Moment.isBegun, starts, started]
        rw [unbegun]
        exact (List.append_nil _).symm
      · exact (Limits.allowStart_eq_false_iff.mp started).1
  | true =>
      obtain ⟨sameCancelledAt, later, made, cut⟩ := passes_bounded within started
      have begun : exchange.request.isBegun world.clock = true := starts.trans started
      refine ⟨sameCancelledAt, later, ?_, ?_, ?_, fun was => cut (cancelled.mp was)⟩
      · simp only [World.calls, made, List.reverse_append, Moment.begun?, Moment.isBegun, begun,
          ↓reduceIte]
        cases exchange.serviceCall?.filter isListed with
        | none | some call => rfl
      all_goals
        rw [begun]
        exact fun impossible => nomatch impossible

end Bounded

theorem Clock.pause_cases (clock : Clock) (duration : Duration) :
    (clock.pause duration).1.cancelledAt = clock.cancelledAt ∧
      clock.now ≤ (clock.pause duration).1.now ∧
      ((clock.pause duration).2 = false → (clock.pause duration).1.isCancelled = true) := by
  obtain ⟨now, cancelledAt⟩ := clock
  cases cancelledAt with
  | none => exact ⟨rfl, Nat.le_add_right _ _, fun impossible => nomatch impossible⟩
  | some moment =>
      by_cases before : moment ≤ now + duration.ticks
      · simp only [Clock.pause, before, ↓reduceIte]
        exact ⟨trivial, Nat.le_max_left _ _, fun _ => decide_eq_true (Nat.le_max_right _ _)⟩
      · simp only [Clock.pause, before, ↓reduceIte]
        exact ⟨trivial, Nat.le_add_right _ _, fun impossible => nomatch impossible⟩

/-- Whatever is asked, the world answers it as `Answered` says. -/
theorem answered (request : Request) (world : World) :
    Answered world ⟨request, ((answer request).run world).1⟩ ((answer request).run world).2 := by
  -- What is no call is always begun, and nothing is listed for it.
  have unlisted (exchange : Exchange) (other : exchange.serviceCall? = none) :
      world.calls = world.calls ++
        ((⟨world.clock, exchange⟩ : Moment).begun?.filter isListed).toList := by
    simp [Moment.begun?, other]
  cases request with
  | store bound call =>
      refine answered_bounded (within_storeCall call) rfl ?_
      exact Exchange.isCancelled_store_iff
  | service bound call =>
      refine answered_bounded (fun limits => ?_) rfl ?_
      · have within := within_serviceCall call limits
        cases call <;> exact within
      · exact Exchange.isCancelled_service_iff
  | pause duration =>
      obtain ⟨sameCancelledAt, later, cut⟩ := world.clock.pause_cases duration
      refine ⟨sameCancelledAt, later, unlisted _ rfl, nofun, nofun, ?_⟩
      intro cancelled
      apply cut
      change (⟨.pause duration, (world.clock.pause duration).2⟩ : Exchange).isCancelled = true
        at cancelled
      cases finished : (world.clock.pause duration).2 with
      | false => rfl
      | true =>
          rw [finished] at cancelled
          cases cancelled
  | freshId =>
      exact ⟨rfl, Nat.le_refl _, unlisted _ rfl, nofun, nofun, nofun⟩
  | count counter =>
      exact ⟨rfl, Nat.le_refl _, unlisted _ rfl, nofun, nofun, nofun⟩

/-- The world answers a request that is not begun as cancelled, and stays as it is. -/
theorem run_answer_of_not_begun
    {request : Request} {world : World} {cancelled : request.Answer}
    (unbegun : request.isBegun world.clock = false)
    (isCancelled : (⟨request, cancelled⟩ : Exchange).isCancelled = true) :
    (answer request).run world = (cancelled, world) := by
  have answered := answered request world
  have sameAnswer := Exchange.answer_eq_of_isCancelled (answered.refused unbegun) isCancelled
  exact Prod.ext sameAnswer (answered.untouched unbegun)

/-! ### Programs -/

theorem Answered.isCancelled
    {world after : World} {exchange : Exchange} (answered : Answered world exchange after)
    (was : world.clock.isCancelled = true) : after.clock.isCancelled = true := by
  have later := answered.now_le
  unfold Clock.isCancelled at was ⊢
  rw [answered.cancelledAt_eq]
  cases cancelled : world.clock.cancelledAt with
  | none => simp [cancelled, Clock.hasCome] at was
  | some moment =>
      simp only [cancelled, Clock.hasCome, decide_eq_true_eq] at was ⊢
      omega

/-- A program that is run in the simulated world heeds cancellation, and the calls to the
runtime that the world lists are those that have been begun. -/
theorem exists_moments {α : Type} (program : Program α) (world : World) :
    ∃ moments : List Moment,
      program.Yields (moments.map Moment.exchange) ((run program).run world).1 ∧
      Heeds moments ∧
      (world.clock.isCancelled = true → ∀ moment ∈ moments, moment.cancelled = true) ∧
      ((run program).run world).2.calls =
        world.calls ++ (moments.filterMap Moment.begun?).filter isListed := by
  induction program generalizing world with
  | done result =>
      exact ⟨[], Program.yields_done_iff.mpr ⟨rfl, rfl⟩, Heeds.nil, by simp,
        (List.append_nil _).symm⟩
  | ask request next inductionHypothesis =>
      have first := answered request world
      have proceeds :
          (run (.ask request next)).run world =
            (run (next ((answer request).run world).1)).run ((answer request).run world).2 :=
        rfl
      obtain ⟨moments, yields, heeds, still, calls⟩ :=
        inductionHypothesis ((answer request).run world).1 ((answer request).run world).2
      rw [proceeds]
      refine ⟨⟨world.clock, _⟩ :: moments,
        Program.yields_ask_iff.mpr ⟨_, _, rfl, yields⟩,
        heeds.cons (fun was => still (first.isCancelled was)) first.refused
          (fun was => still (first.come was)), ?_, ?_⟩
      · intro was
        exact List.forall_mem_cons.mpr ⟨was, still (first.isCancelled was)⟩
      · rw [calls, first.calls_eq, List.append_assoc, List.filterMap_cons]
        cases (⟨world.clock, _⟩ : Moment).begun? with
        | none => rfl
        | some call =>
            cases listed : isListed call with
            | true | false => simp [Option.filter, listed]

end Simulation

end PipelineRegistry
