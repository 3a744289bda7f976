import PipelineRegistry.Proofs.Command
import PipelineRegistry.Proofs.StoreLaws

/-!
# Runs of many callers

Any number of callers ask commands of the registry at the same time. Each of them makes its own
exchanges one after the other, but between two of them anything may happen: exchanges of other
callers, and, if the store is faulty, calls that take effect long after their answers were lost, or
writes of clients that do not use the registry. A run is the list of all that happens in the order
in which it happens, so what holds of all runs holds of every interleaving.
-/

namespace PipelineRegistry

/-! ## Stores that may be faulty -/

/-- Whether callers always get the answer of the store. -/
inductive Reliability
  | faultless
  | faulty
  deriving DecidableEq, Repr

/-- A store, and the calls whose answers were lost. Each of these may still take
effect, once, with the caller that made it. -/
structure Database where
  store : Store
  adrift : List (Nat × StoreCall) := []

/-- How a caller's request can be answered, and what becomes of the database. A
call whose answer is lost is adrift, and it may land at once, later or never. -/
inductive Answers (reliability : Reliability) (caller : Nat) (database : Database) :
    Exchange → Database → Prop
  | performed (bound : Bound) (call : StoreCall) :
      Answers reliability caller database ⟨.store bound call, database.store.answer call⟩
        { database with store := database.store.after call }
  | refused (faulty : reliability = .faulty) (bound : Bound) (call : StoreCall)
      {failure : CallError StoreError} (refusal : failure.isRefusal = true) :
      Answers reliability caller database ⟨.store bound call, .error failure⟩ database
  | lost (faulty : reliability = .faulty) (bound : Bound) (call : StoreCall)
      {failure : CallError StoreError} (doubtful : failure.isRefusal = false) :
      Answers reliability caller database ⟨.store bound call, .error failure⟩
        { database with adrift := (caller, call) :: database.adrift }
  | served (bound : Bound) (call : ServiceCall)
      (answer : Except (CallError ServiceError) call.Answer) :
      Answers reliability caller database ⟨.service bound call, answer⟩ database
  | paused (duration : Duration) {finished : Bool}
      (heeded : reliability = .faultless → finished = true) :
      Answers reliability caller database ⟨.pause duration, finished⟩ database
  | named (id : String) :
      Answers reliability caller database ⟨.freshId, id⟩ database
  | counted (counter : Counter) :
      Answers reliability caller database ⟨.count counter, ()⟩ database

/-! ## Events -/

/-- Something that happens in a run. Callers are told apart by numbers, and each
of them asks one command. -/
inductive Event
  | invoked (caller : Nat) (context : Context) (command : Command)
  | exchanged (caller : Nat) (exchange : Exchange)
  | returned (caller : Nat) (result : Except RegistryError Reply)
  | landed (caller : Nat) (call : StoreCall)
  | rival (call : StoreCall)

namespace Event

def exchange? (caller : Nat) : Event → Option Exchange
  | exchanged other exchange => if other = caller then some exchange else none
  | _ => none

/-- The call that the store has performed. -/
def effect? : Event → Option StoreCall
  | exchanged _ ⟨.store _ call, .ok _⟩ => some call
  | landed _ call => some call
  | rival call => some call
  | _ => none

end Event

def historyOf (caller : Nat) (trace : List Event) : List Exchange :=
  trace.filterMap (Event.exchange? caller)

/-- What becomes of a store in the course of events. -/
def Store.replay (store : Store) (trace : List Event) : Store :=
  store.afterAll (trace.filterMap Event.effect?)

/-! ## Runs -/

/-- One event, given the events before it. -/
inductive Step (reliability : Reliability) (trace : List Event) (database : Database) :
    Event → Database → Prop
  | invoked (caller : Nat) (context : Context) (command : Command)
      (new : ∀ context command, .invoked caller context command ∉ trace) :
      Step reliability trace database (.invoked caller context command) database
  | exchanged {caller : Nat} {context : Context} {command : Command} {exchange : Exchange}
      {next : exchange.request.Answer → Program (Except RegistryError Reply)}
      {after : Database}
      (asked : .invoked caller context command ∈ trace)
      (running : ∀ result, .returned caller result ∉ trace)
      (leads : Program.Leads (command.operation context).run (historyOf caller trace)
        (.ask exchange.request next))
      (answers : Answers reliability caller database exchange after) :
      Step reliability trace database (.exchanged caller exchange) after
  | returned {caller : Nat} {context : Context} {command : Command}
      {result : Except RegistryError Reply}
      (asked : .invoked caller context command ∈ trace)
      (running : ∀ result, .returned caller result ∉ trace)
      (yields : Operation.Yields (command.operation context) (historyOf caller trace) result) :
      Step reliability trace database (.returned caller result) database
  | landed {caller : Nat} {call : StoreCall}
      (front back : List (Nat × StoreCall)) (faulty : reliability = .faulty)
      (adrift : database.adrift = front ++ (caller, call) :: back)
      (succeeds : (database.store.answer call).isOk = true) :
      Step reliability trace database (.landed caller call)
        ⟨database.store.after call, front ++ back⟩
  | rival (faulty : reliability = .faulty) (call : StoreCall) :
      Step reliability trace database (.rival call)
        { database with store := database.store.after call }

/-- The events that can happen from a store on, and the database they lead to. -/
inductive Run (reliability : Reliability) (initial : Store) : List Event → Database → Prop
  | start :
      Run reliability initial [] { store := initial }
  | step {trace : List Event} {database after : Database} {event : Event} :
      Run reliability initial trace database →
      Step reliability trace database event after →
      Run reliability initial (trace ++ [event]) after

/-- Between two events, in the course of the call of a caller. -/
def During (caller : Nat) (context : Context) (command : Command) (before : List Event) : Prop :=
  .invoked caller context command ∈ before ∧ ∀ result, .returned caller result ∉ before

/-! ## Histories of callers -/

variable {reliability : Reliability} {initial : Store} {final : Database}
  {trace before behind : List Event} {event : Event} {caller other : Nat}
  {context : Context} {command : Command} {exchange : Exchange}
  {result : Except RegistryError Reply}

@[simp]
theorem historyOf_nil : historyOf caller [] = [] :=
  rfl

@[simp]
theorem historyOf_append (caller : Nat) (earlier later : List Event) :
    historyOf caller (earlier ++ later) = historyOf caller earlier ++ historyOf caller later :=
  List.filterMap_append

@[simp]
theorem historyOf_exchanged (caller : Nat) (exchange : Exchange) :
    historyOf caller [.exchanged caller exchange] = [exchange] := by
  simp [historyOf, Event.exchange?]

@[simp]
theorem historyOf_cons_exchanged
    (caller : Nat) (exchange : Exchange) (later : List Event) :
    historyOf caller (.exchanged caller exchange :: later) =
      exchange :: historyOf caller later := by
  simp [historyOf, Event.exchange?]

theorem historyOf_exchanged_of_ne (different : other ≠ caller) :
    historyOf caller [.exchanged other exchange] = [] := by
  simp [historyOf, Event.exchange?, different]

theorem exchange?_eq_some_iff :
    event.exchange? caller = some exchange ↔ event = .exchanged caller exchange := by
  cases event with
  | exchanged other happened =>
      by_cases same : other = caller
      · subst same
        simp [Event.exchange?]
      · simp [Event.exchange?, same]
  | _ => simp [Event.exchange?]

theorem mem_historyOf_iff :
    exchange ∈ historyOf caller trace ↔ .exchanged caller exchange ∈ trace := by
  unfold historyOf
  rw [List.mem_filterMap]
  constructor
  · rintro ⟨event, member, found⟩
    rw [exchange?_eq_some_iff] at found
    exact found ▸ member
  · intro member
    exact ⟨_, member, exchange?_eq_some_iff.mpr rfl⟩

theorem historyOf_split
    {earlier later : List Exchange}
    (split : historyOf caller trace = earlier ++ exchange :: later) :
    ∃ before after,
      trace = before ++ .exchanged caller exchange :: after ∧
      historyOf caller before = earlier ∧ historyOf caller after = later := by
  obtain ⟨before, rest, rfl, first, second⟩ := List.filterMap_eq_append_iff.mp split
  obtain ⟨skipped, event, after, rfl, none, found, last⟩ := List.filterMap_eq_cons_iff.mp second
  rw [exchange?_eq_some_iff] at found
  subst found
  refine ⟨before ++ skipped, after, by simp, ?_, last⟩
  have nothing : historyOf caller skipped = [] := List.filterMap_eq_nil_iff.mpr none
  rw [historyOf_append, nothing, List.append_nil]
  exact first

theorem historyOf_split_cons
    {later : List Exchange}
    (split : historyOf caller trace = exchange :: later) :
    ∃ before after,
      trace = before ++ .exchanged caller exchange :: after ∧
      historyOf caller before = [] ∧ historyOf caller after = later := by
  rw [← List.nil_append (exchange :: later)] at split
  exact historyOf_split split

theorem effect?_eq_some_iff {call : StoreCall} :
    event.effect? = some call ↔
      (∃ caller bound answered,
        event = .exchanged caller ⟨.store bound call, .ok answered⟩) ∨
      (∃ caller, event = .landed caller call) ∨ event = .rival call := by
  constructor
  · intro found
    unfold Event.effect? at found
    split at found
    · cases found
      exact Or.inl ⟨_, _, _, rfl⟩
    · cases found
      exact Or.inr (Or.inl ⟨_, rfl⟩)
    · cases found
      exact Or.inr (Or.inr rfl)
    · cases found
  · rintro (⟨caller, bound, answered, rfl⟩ | ⟨caller, rfl⟩ | rfl)
    · rfl
    · rfl
    · rfl

@[simp]
theorem Store.replay_nil (store : Store) : store.replay [] = store :=
  rfl

theorem Store.replay_append (store : Store) (earlier later : List Event) :
    store.replay (earlier ++ later) = (store.replay earlier).replay later := by
  simp only [replay, List.filterMap_append, afterAll_append]

theorem Store.replay_append_of_none
    (store : Store) (earlier : List Event) (none : event.effect? = .none) :
    store.replay (earlier ++ [event]) = store.replay earlier := by
  rw [replay_append]
  simp [replay, none, afterAll]

theorem Store.replay_append_of_some
    {call : StoreCall} (store : Store) (earlier : List Event)
    (effect : event.effect? = some call) :
    store.replay (earlier ++ [event]) = (store.replay earlier).after call := by
  rw [replay_append]
  simp [replay, effect, afterAll]

/-! ## What runs are made of -/

namespace Run

/-- Every event of a run is a step from what the events before it lead to. -/
theorem split
    (run : Run reliability initial (before ++ event :: behind) final) :
    ∃ database after,
      Run reliability initial before database ∧
      Step reliability before database event after := by
  generalize whole : before ++ event :: behind = trace at run
  induction run generalizing behind with
  | start => simp at whole
  | @step earlier database after latest run step inductionHypothesis =>
      rcases List.eq_nil_or_concat behind with rfl | ⟨rest, last, rfl⟩
      · obtain ⟨rfl, same⟩ := List.append_inj' whole rfl
        cases same
        exact ⟨database, after, run, step⟩
      · have whole : (before ++ event :: rest) ++ [last] = earlier ++ [latest] := by
          simpa using whole
        obtain ⟨rfl, -⟩ := List.append_inj' whole rfl
        exact inductionHypothesis rfl

theorem exists_of_append
    (run : Run reliability initial (before ++ behind) final) :
    ∃ database, Run reliability initial before database := by
  cases behind with
  | nil => exact ⟨final, by simpa using run⟩
  | cons event rest =>
      obtain ⟨database, -, run, -⟩ := run.split
      exact ⟨database, run⟩

/-- A caller asks one command only. -/
theorem asked_unique
    (run : Run reliability initial trace final)
    {firstContext secondContext : Context} {first second : Command}
    (askedFirst : .invoked caller firstContext first ∈ trace)
    (askedSecond : .invoked caller secondContext second ∈ trace) :
    firstContext = secondContext ∧ first = second := by
  induction run with
  | start => simp at askedFirst
  | step run step inductionHypothesis =>
      rcases List.mem_append.mp askedFirst with earlierFirst | lastFirst
      · rcases List.mem_append.mp askedSecond with earlierSecond | lastSecond
        · exact inductionHypothesis earlierFirst earlierSecond
        · obtain rfl := List.mem_singleton.mp lastSecond
          cases step with
          | invoked _ _ _ new => exact absurd earlierFirst (new _ _)
      · obtain rfl := List.mem_singleton.mp lastFirst
        rcases List.mem_append.mp askedSecond with earlierSecond | lastSecond
        · cases step with
          | invoked _ _ _ new => exact absurd earlierSecond (new _ _)
        · cases List.mem_singleton.mp lastSecond
          exact ⟨rfl, rfl⟩

theorem historyOf_eq_nil
    (run : Run reliability initial trace final)
    (unasked : ∀ context command, .invoked caller context command ∉ trace) :
    historyOf caller trace = [] := by
  apply List.eq_nil_iff_forall_not_mem.mpr
  intro exchange member
  obtain ⟨before, behind, rfl⟩ := List.append_of_mem (mem_historyOf_iff.mp member)
  obtain ⟨_, _, -, step⟩ := run.split
  cases step with
  | exchanged asked running leads answers =>
      exact unasked _ _ (List.mem_append_left _ asked)

/-- A caller that has asked goes the way of its program. -/
theorem leads
    (run : Run reliability initial trace final)
    (asked : .invoked caller context command ∈ trace) :
    ∃ rest, Program.Leads (command.operation context).run (historyOf caller trace) rest := by
  induction run with
  | start => simp at asked
  | @step trace database after event run step inductionHypothesis =>
      rcases List.mem_append.mp asked with earlier | last
      · cases moved : event.exchange? caller with
        | none =>
            have nothing : historyOf caller [event] = [] := by
              simp [historyOf, moved]
            rw [historyOf_append, nothing, List.append_nil]
            exact inductionHypothesis earlier
        | some exchange =>
            obtain rfl := exchange?_eq_some_iff.mp moved
            cases step with
            | exchanged known running leads answers =>
                obtain ⟨rfl, rfl⟩ := run.asked_unique earlier known
                rw [historyOf_append, historyOf_exchanged]
                exact ⟨_, leads.extend exchange.answer⟩
      · obtain rfl := List.mem_singleton.mp last
        cases step with
        | invoked _ _ _ new =>
            have nothing : historyOf caller [.invoked caller context command] = [] := rfl
            rw [historyOf_append, run.historyOf_eq_nil new, nothing]
            exact ⟨_, Program.Leads.refl _⟩

/-- What a caller gets is what its program yields, and it does nothing more. -/
theorem yields
    (run : Run reliability initial trace final)
    (asked : .invoked caller context command ∈ trace)
    (returned : .returned caller result ∈ trace) :
    Operation.Yields (command.operation context) (historyOf caller trace) result := by
  induction run with
  | start => simp at returned
  | @step trace database after event run step inductionHypothesis =>
      rcases List.mem_append.mp returned with earlier | last
      · have askedBefore : .invoked caller context command ∈ trace := by
          rcases List.mem_append.mp asked with member | member
          · exact member
          · obtain rfl := List.mem_singleton.mp member
            obtain ⟨front, back, rfl⟩ := List.append_of_mem earlier
            obtain ⟨_, _, -, formerStep⟩ := run.split
            cases step with
            | invoked _ _ _ new =>
                cases formerStep with
                | returned known _ _ => exact absurd (List.mem_append_left _ known) (new _ _)
        have nothing : historyOf caller [event] = [] := by
          apply List.filterMap_eq_nil_iff.mpr
          intro happened member
          obtain rfl := List.mem_singleton.mp member
          cases moved : happened.exchange? caller with
          | none => rfl
          | some exchange =>
              obtain rfl := exchange?_eq_some_iff.mp moved
              cases step with
              | exchanged known running leads answers => exact absurd earlier (running _)
        rw [historyOf_append, nothing, List.append_nil]
        exact inductionHypothesis askedBefore earlier
      · obtain rfl := List.mem_singleton.mp last
        have askedBefore : .invoked caller context command ∈ trace := by
          rcases List.mem_append.mp asked with member | member
          · exact member
          · cases List.mem_singleton.mp member
        cases step with
        | returned known running yields =>
            obtain ⟨rfl, rfl⟩ := run.asked_unique askedBefore known
            have nothing : historyOf caller [.returned caller result] = [] := rfl
            rw [historyOf_append, nothing, List.append_nil]
            exact yields

theorem during_of_exchanged
    (run : Run reliability initial (before ++ .exchanged caller exchange :: behind) final)
    (asked : .invoked caller context command ∈ before ++ .exchanged caller exchange :: behind) :
    During caller context command before := by
  obtain ⟨_, _, -, step⟩ := run.split
  cases step with
  | exchanged askedBefore running _ _ =>
      obtain ⟨rfl, rfl⟩ := run.asked_unique asked (List.mem_append_left _ askedBefore)
      exact ⟨askedBefore, running⟩

/-- A caller that has not come to its result can make the next exchange. -/
theorem then_exchange
    {database after : Database} {later : List Exchange}
    (run : Run reliability initial trace database)
    (asked : .invoked caller context command ∈ trace)
    (running : ∀ result, .returned caller result ∉ trace)
    (yields : Operation.Yields (command.operation context)
      (historyOf caller trace ++ exchange :: later) result)
    (answers : Answers reliability caller database exchange after) :
    Run reliability initial (trace ++ [.exchanged caller exchange]) after := by
  obtain ⟨next, leads⟩ := Program.Yields.leads yields
  exact Run.step run (Step.exchanged asked running leads answers)

/-! ## What has become of the store -/

/-- The store is what the calls that took effect have made of it. -/
theorem store_eq
    (run : Run reliability initial trace final) :
    final.store = initial.replay trace := by
  induction run with
  | start => rfl
  | @step trace database after event run step inductionHypothesis =>
      rw [Store.replay_append, ← inductionHypothesis]
      cases step with
      | invoked caller context command new => rfl
      | returned asked running yields => rfl
      | landed front back faulty adrift succeeds => rfl
      | rival faulty call => rfl
      | exchanged asked running leads answers =>
          cases answers with
          | performed bound call =>
              cases answered : database.store.answer call with
              | ok answer => rfl
              | error failure => exact Store.after_of_answer_error answered
          | refused faulty bound call refusal => rfl
          | lost faulty bound call doubtful => rfl
          | served bound call answer => rfl
          | paused duration heeded => rfl
          | named id => rfl
          | counted counter => rfl

end Run

end PipelineRegistry
