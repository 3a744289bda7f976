import PipelineRegistry.Proofs.Courses
import PipelineRegistry.Proofs.Rejections
import PipelineRegistry.Proofs.Requests

/-!
# Nothing is started after cancellation

A client may cancel its request at any instant: before the operation begins, in the course of any
call or wait, or in between. From then on no call is started any more, with one exception. A write
that was not answered may have been stored, and the read that finds out does not heed cancellation.
It is made once at most, and right behind that write.
-/

namespace PipelineRegistry

open Registry

/-! ## Calls -/

/-- The request goes to a store or to a service. -/
def Request.isCall : Request → Bool
  | store _ _ | service _ _ => true
  | pause _ | freshId | count _ => false

/-- A call to a store or to a service that has been begun, and not merely asked for. -/
def Moment.startsCall (moment : Moment) : Bool :=
  moment.exchange.request.isCall && moment.isBegun

/-- The request heeds cancellation if it is a call, or it reads a document again. -/
def Request.Heeding (context : Context) (request : Request) : Prop :=
  (request.isCall = true → request.heedsCancellation = true) ∨
    request = .store context.settings.unheedingBound (.get context.key)

section Stopping

variable {context : Context}

theorem Request.OfReading.heeding
    {request : Request} (allowed : OfReading context request) : request.Heeding context := by
  cases allowed with
  | load | probe selector | measure id => exact Or.inl fun _ => rfl

theorem Request.OfEdit.heeding
    {request : Request} (allowed : OfEdit context request) : request.Heeding context := by
  cases allowed with
  | reread => exact Or.inr rfl
  | load | write _ _ | refresh | terminate _ => exact Or.inl fun _ => rfl
  | name | pause _ | count _ => exact Or.inl fun impossible => nomatch impossible

/-- All calls of a command heed cancellation, apart from reading a document again. -/
theorem Command.asksOnly_heeding (context : Context) (command : Command) :
    (command.operation context).AsksOnly (Request.Heeding context) := by
  cases command with
  | edit edit =>
      exact Operation.AsksOnly.map (edit.asksOnly.mono fun _ => Request.OfEdit.heeding) _
  | read reading => exact reading.asksOnly.mono fun _ => Request.OfReading.heeding
  | createPipeline => exact (makesOneCall_createPipeline context).asksOnly (Or.inl fun _ => rfl)
  | deletePipeline => exact (makesOneCall_deletePipeline context).asksOnly (Or.inl fun _ => rfl)

/-- A call that is begun in a cancelled request reads a document again. -/
theorem reread_of_startsCall
    {moment : Moment} (heeding : moment.exchange.request.Heeding context)
    (cancelled : moment.cancelled = true) (starts : moment.startsCall = true) :
    ∃ answer, moment.exchange = .reread context answer := by
  obtain ⟨isCall, begun⟩ := Bool.and_eq_true_iff.mp starts
  rcases heeding with heeds | same
  · have unbegun : moment.isBegun = false :=
      Request.isBegun_eq_false_iff.mpr ⟨cancelled, heeds isCall⟩
    rw [unbegun] at begun
    cases begun
  · obtain ⟨was, request, answer⟩ := moment
    cases same
    exact ⟨answer, rfl⟩

/-! ## Reading again -/

/-- A history reads a document again once at most, and then right behind a write without an
answer. -/
def RereadsOnce (context : Context) (history : List Exchange) : Prop :=
  (∀ exchange ∈ history, exchange.isReread = false) ∨
    ∃ earlier written version cause answer later,
      history =
        earlier ++ .write context written version (.error (.interrupted cause)) ::
          .reread context answer :: later ∧
      (∀ exchange ∈ earlier, exchange.isReread = false) ∧
      ∀ exchange ∈ later, exchange.isReread = false

namespace RereadsOnce

variable {history front back : List Exchange}

theorem append
    (once : RereadsOnce context history)
    (noneFront : ∀ exchange ∈ front, exchange.isReread = false)
    (noneBack : ∀ exchange ∈ back, exchange.isReread = false) :
    RereadsOnce context (front ++ history ++ back) := by
  rcases once with none | ⟨earlier, written, version, cause, answer, later, rfl, before, after⟩
  · apply Or.inl
    intro exchange member
    rcases List.mem_append.mp member with member | member
    · rcases List.mem_append.mp member with member | member
      · exact noneFront exchange member
      · exact none exchange member
    · exact noneBack exchange member
  · refine Or.inr ⟨front ++ earlier, written, version, cause, answer, later ++ back, by simp,
      ?_, ?_⟩
    · exact List.forall_mem_append.mpr ⟨noneFront, before⟩
    · exact List.forall_mem_append.mpr ⟨after, noneBack⟩

theorem countP_le_one (once : RereadsOnce context history) :
    history.countP Exchange.isReread ≤ 1 := by
  rcases once with none | ⟨earlier, written, version, cause, answer, later, rfl, before, after⟩
  · have zero : history.countP Exchange.isReread = 0 :=
      List.countP_eq_zero.mpr fun exchange member => by simp [none exchange member]
    omega
  · have noneBefore : earlier.countP Exchange.isReread = 0 :=
      List.countP_eq_zero.mpr fun exchange member => by simp [before exchange member]
    have noneAfter : later.countP Exchange.isReread = 0 :=
      List.countP_eq_zero.mpr fun exchange member => by simp [after exchange member]
    rw [List.countP_append, List.countP_cons_of_neg (by simp),
      List.countP_cons_of_pos (by simp)]
    omega

theorem behind_write
    {answer : Except (CallError StoreError) (PipelineDocument × Version)}
    (once : RereadsOnce context (front ++ .reread context answer :: back)) :
    ∃ earlier written version cause,
      front = earlier ++ [.write context written version (.error (.interrupted cause))] := by
  have isReread : (Exchange.reread context answer).isReread = true := rfl
  rcases once with none | ⟨earlier, written, version, cause, found, later, split, before, after⟩
  · rw [none _ (by simp)] at isReread
    cases isReread
  have notEarlier : Exchange.reread context answer ∉ earlier := by
    intro member
    rw [before _ member] at isReread
    cases isReread
  obtain ⟨between, rfl, behind⟩ := split_behind notEarlier split.symm
  rcases cons_eq_append_cons behind with ⟨_, impossible⟩ | ⟨next, rfl, behindWrite⟩
  · cases impossible
  rcases cons_eq_append_cons behindWrite with ⟨rfl, _⟩ | ⟨further, _, behindReread⟩
  · exact ⟨earlier, written, version, cause, rfl⟩
  · rw [after _ (by rw [behindReread]; simp)] at isReread
    cases isReread

end RereadsOnce

theorem Attempts.rereadsOnce
    {α : Type} {mutation : Mutation} {change : Change α} {number remaining : Nat}
    {history : List Exchange} {result : Except RegistryError α}
    (attempts : Attempts context mutation change number remaining history result) :
    RereadsOnce context history := by
  have none : ∀ exchange ∈ ([] : List Exchange), exchange.isReread = false := by simp
  induction attempts with
  | unread failure => exact Or.inl (by simp)
  | rejected document version rejects => exact Or.inl (by simp)
  | stored document version later drafted => exact Or.inl (by simp)
  | refused document version error drafted other => exact Or.inl (by simp)
  | recovered document version later cause drafted =>
      exact Or.inr ⟨[.load context (.ok (document, version))], _, version, cause, _, _, rfl,
        by simp, by simp⟩
  | doubtful document version cause answer drafted missing =>
      exact Or.inr ⟨[.load context (.ok (document, version))], _, version, cause, _, _, rfl,
        by simp, by simp⟩
  | exhausted document version key expected drafted => exact Or.inl (by simp)
  | abandoned document version key expected drafted => exact Or.inl (by simp)
  | @again number fewer document version written output key expected rest result drafted
      remaining inductionHypothesis =>
      have opening : ∀ exchange ∈
          [Exchange.load context (.ok (document, version)),
            .write context written version (.error (.failed (.conflict key expected))),
            .counted .storeConflicts, .pause context number true],
          exchange.isReread = false := by simp
      have once := inductionHypothesis.append opening none
      rw [List.append_nil] at once
      exact once

/-! ## Commands -/

variable {command : Command} {history : List Exchange}

theorem isReread_of_asksOnly
    {α : Type} {operation : Operation α} {allowed : Request → Prop}
    {result : Except RegistryError α} (asks : operation.AsksOnly allowed)
    (never : ∀ request, allowed request → request.isReread = false)
    (yields : Operation.Yields operation history result) :
    ∀ exchange ∈ history, exchange.isReread = false := by
  intro exchange member
  exact never _ ((Program.AsksOnly.of_leads asks yields).1 exchange member)

theorem Edit.Named.isReread
    {edit : Edit} {id : String} {naming : List Exchange} (named : edit.Named id naming) :
    ∀ exchange ∈ naming, exchange.isReread = false := by
  unfold Edit.Named at named
  split at named
  · subst named
    simp [Exchange.isReread, Request.isReread]
  · obtain ⟨rfl, _⟩ := named
    simp

theorem Edit.asksOnly_notifyAll (context : Context) (notices : List Notice) :
    (Edit.notifyAll context notices).AsksOnly (Request.isReread · = false) := by
  induction notices with
  | nil => exact Operation.asksOnly_pure _
  | cons notice rest inductionHypothesis =>
      have notified :
          (notify context notice.effect notice.call).AsksOnly (Request.isReread · = false) := by
        refine Operation.asksOnly_request_bind rfl fun answer => ?_
        cases answer with
        | ok done => exact Operation.asksOnly_pure _
        | error failure =>
            exact Operation.asksOnly_request_bind rfl fun _ => Operation.asksOnly_pure _
      exact notified.bind fun _ => inductionHypothesis.bind fun _ => Operation.asksOnly_pure _

theorem Edit.rereadsOnce
    {edit : Edit} {result : Except RegistryError MutationOutcome}
    (yields : Operation.Yields (edit.operation context) history result) :
    RereadsOnce context history := by
  rcases Edit.yields_operation yields with
    ⟨error, -, rfl, -⟩ |
    ⟨id, naming, attempts, notices, outcome, named, attempted, rfl, -, ended⟩
  · exact Or.inl (by simp)
  · apply attempted.rereadsOnce.append named.isReread
    rcases ended with ⟨error, -, rfl, -⟩ | ⟨receipt, failures, -, notified, -⟩
    · simp
    · exact isReread_of_asksOnly (Edit.asksOnly_notifyAll context _) (fun _ never => never)
        notified

/-- A command reads a document again once at most. -/
theorem Command.rereadsOnce
    {result : Except RegistryError Reply}
    (yields : Operation.Yields (command.operation context) history result) :
    RereadsOnce context history := by
  cases command with
  | edit edit =>
      obtain ⟨outcome, edited, -⟩ := Operation.yields_map_iff.mp yields
      exact edit.rereadsOnce edited
  | read reading =>
      refine Or.inl (isReread_of_asksOnly reading.asksOnly ?_ yields)
      intro request allowed
      cases allowed with
      | load | probe selector | measure id => rfl
  | createPipeline =>
      obtain ⟨answer, rfl, -⟩ := (makesOneCall_createPipeline context).yields yields
      exact Or.inl (List.forall_mem_singleton.mpr rfl)
  | deletePipeline =>
      obtain ⟨answer, rfl, -⟩ := (makesOneCall_deletePipeline context).yields yields
      exact Or.inl (List.forall_mem_singleton.mpr rfl)

/-! ## Requests that were cancelled before -/

/-- The check that a command makes before anything else. -/
def Command.check : Command → Except RegistryError Unit
  | .edit asked => asked.check
  | read _ | createPipeline | deletePipeline => .ok ()

/-- A command comes to nothing: its check has failed, or its first call was refused. -/
def Command.Refused (command : Command) (result : Except RegistryError Reply) : Prop :=
  (∃ error, command.check = .error error ∧ result = .error error) ∨
    (command.check = .ok () ∧ result = .error (.interrupted .cancelled))

/-- Whatever heeds cancellation has been answered as cancelled. -/
def AllRefused (history : List Exchange) : Prop :=
  ∀ exchange ∈ history,
    exchange.request.heedsCancellation = true → exchange.isCancelled = true

theorem allRefused_of_cancelled
    {moments : List Moment} (heeds : Heeds moments)
    (cancelled : ∀ moment ∈ moments, moment.cancelled = true) :
    AllRefused (moments.map Moment.exchange) := by
  intro exchange member heeding
  obtain ⟨moment, among, rfl⟩ := List.mem_map.mp member
  apply heeds.refused moment among
  exact Request.isBegun_eq_false_iff.mpr ⟨cancelled moment among, heeding⟩

theorem AllRefused.answer_eq
    {bound : Bound} {call : StoreCall} {answer : Except (CallError StoreError) call.Answer}
    (refused : AllRefused history) (member : ⟨.store bound call, answer⟩ ∈ history)
    (heeds : bound.heedsCancellation = true) :
    answer = .error (.interrupted .cancelled) :=
  Exchange.isCancelled_store_iff.mp (refused _ member heeds)

/-- An attempt whose first read is refused ends with it. -/
theorem Attempts.unread_of_refused
    {α : Type} {mutation : Mutation} {change : Change α} {number remaining : Nat}
    {result : Except RegistryError α} (refused : AllRefused history)
    (attempts : Attempts context mutation change number remaining history result) :
    history = [.load context (.error (.interrupted .cancelled))] ∧
      result = .error (.interrupted .cancelled) := by
  have unread {answer : Except (CallError StoreError) (PipelineDocument × Version)}
      (member : .load context answer ∈ history) : answer = .error (.interrupted .cancelled) :=
    refused.answer_eq member rfl
  cases attempts with
  | unread failure =>
      cases unread (List.mem_singleton_self _)
      exact ⟨rfl, rfl⟩
  | rejected document version rejects => cases unread List.mem_cons_self
  | stored document version later drafted => cases unread List.mem_cons_self
  | refused document version error drafted other => cases unread List.mem_cons_self
  | recovered document version later cause drafted => cases unread List.mem_cons_self
  | doubtful document version cause answer drafted missing => cases unread List.mem_cons_self
  | exhausted document version key expected drafted => cases unread List.mem_cons_self
  | abandoned document version key expected drafted => cases unread List.mem_cons_self
  | again document version key expected drafted remaining => cases unread List.mem_cons_self

theorem Edit.refused_of_allRefused
    {edit : Edit} {result : Except RegistryError MutationOutcome}
    (refused : AllRefused history)
    (yields : Operation.Yields (edit.operation context) history result) :
    (∀ exchange ∈ history, exchange.isReread = false) ∧
      ((∃ error, edit.check = .error error ∧ result = .error error) ∨
        (edit.check = .ok () ∧ result = .error (.interrupted .cancelled))) := by
  rcases Edit.yields_operation yields with
    ⟨error, checked, rfl, rfl⟩ |
    ⟨id, naming, attempts, notices, outcome, named, attempted, rfl, -, ended⟩
  · exact ⟨by simp, Or.inl ⟨error, checked, rfl⟩⟩
  have part : AllRefused attempts := fun exchange member =>
    refused exchange (List.mem_append_left _ (List.mem_append_right _ member))
  obtain ⟨rfl, rfl⟩ := attempted.unread_of_refused part
  rcases ended with ⟨error, same, rfl, rfl⟩ | ⟨receipt, failures, impossible, -, -⟩
  · cases same
    refine ⟨?_, Or.inr ⟨Edit.check_of_yields yields (by simp), rfl⟩⟩
    rw [List.append_nil]
    exact List.forall_mem_append.mpr ⟨named.isReread, by simp⟩
  · cases impossible

theorem Reading.refused_of_allRefused
    {reading : Reading} {result : Except RegistryError Reply} (refused : AllRefused history)
    (yields : Operation.Yields (reading.operation context) history result) :
    (∀ exchange ∈ history, exchange.isReread = false) ∧
      result = .error (.interrupted .cancelled) := by
  rcases Reading.yields_operation yields with
    ⟨failure, rfl, rfl⟩ | ⟨document, version, rest, rfl, -, -⟩
  · cases refused.answer_eq (List.mem_singleton_self _) rfl
    exact ⟨by simp, rfl⟩
  · cases refused.answer_eq List.mem_cons_self rfl

theorem Command.MakesOneCall.refused_of_allRefused
    {call : StoreCall} {reply : call.Answer → Reply} {result : Except RegistryError Reply}
    (makes : command.MakesOneCall context call reply) (refused : AllRefused history)
    (yields : Operation.Yields (command.operation context) history result) :
    (∀ exchange ∈ history, exchange.isReread = false) ∧
      result = .error (.interrupted .cancelled) := by
  obtain ⟨answer, rfl, rfl⟩ := makes.yields yields
  obtain rfl := refused.answer_eq (List.mem_singleton_self _) rfl
  refine ⟨List.forall_mem_singleton.mpr ?_, rfl⟩
  cases call with
  | get key | update key document expected | create key | delete key => rfl

theorem Command.refused_of_allRefused
    {result : Except RegistryError Reply} (refused : AllRefused history)
    (yields : Operation.Yields (command.operation context) history result) :
    (∀ exchange ∈ history, exchange.isReread = false) ∧ command.Refused result := by
  cases command with
  | edit edit =>
      obtain ⟨outcome, edited, rfl⟩ := Operation.yields_map_iff.mp yields
      obtain ⟨never, ⟨error, checked, rfl⟩ | ⟨checked, rfl⟩⟩ :=
        edit.refused_of_allRefused refused edited
      · exact ⟨never, Or.inl ⟨error, checked, rfl⟩⟩
      · exact ⟨never, Or.inr ⟨checked, rfl⟩⟩
  | read reading =>
      obtain ⟨never, rfl⟩ := reading.refused_of_allRefused refused yields
      exact ⟨never, Or.inr ⟨rfl, rfl⟩⟩
  | createPipeline =>
      obtain ⟨never, rfl⟩ :=
        (makesOneCall_createPipeline context).refused_of_allRefused refused yields
      exact ⟨never, Or.inr ⟨rfl, rfl⟩⟩
  | deletePipeline =>
      obtain ⟨never, rfl⟩ :=
        (makesOneCall_deletePipeline context).refused_of_allRefused refused yields
      exact ⟨never, Or.inr ⟨rfl, rfl⟩⟩

theorem Command.kind_of_check
    {error : RegistryError} (failed : command.check = .error error) :
    error.kind = .validation := by
  cases command with
  | edit edit =>
      obtain ⟨violation, rfl⟩ := edit.onlyViolations_check error failed
      rfl
  | read _ | createPipeline | deletePipeline => cases failed

/-! ## Whole courses -/

/-- How the moments of a command stop when the request is cancelled. A call that is not begun is
answered as cancelled, and a world that is asked to make it stays as it is. -/
structure Stops (context : Context) (moments : List Moment) : Prop where
  final : moments.Pairwise fun earlier later => earlier.cancelled → later.cancelled
  refused : ∀ moment ∈ moments, moment.cancelled = true →
    moment.exchange.request.isCall = true →
    moment.exchange.isCancelled = true ∨ ∃ answer, moment.exchange = .reread context answer
  untouched : ∀ moment ∈ moments, moment.isBegun = false →
    ∀ world : Simulation.World, world.clock = moment.clock →
      (Simulation.answer moment.exchange.request).run world = (moment.exchange.answer, world)
  onlyReread : ∀ moment ∈ moments, moment.cancelled = true → moment.startsCall = true →
    ∃ answer, moment.exchange = .reread context answer
  once : moments.countP (fun moment => moment.cancelled && moment.startsCall) ≤ 1
  behindWrite : ∀ before moment after answer,
    moments = before ++ moment :: after → moment.exchange = .reread context answer →
    ∃ earlier writing written version cause,
      before = earlier ++ [writing] ∧
        writing.exchange = .write context written version (.error (.interrupted cause))

theorem stops_of_heeds
    {moments : List Moment} {result : Except RegistryError Reply} (heeds : Heeds moments)
    (yields : Operation.Yields (command.operation context) (moments.map Moment.exchange)
      result) :
    Stops context moments := by
  have heeding : ∀ moment ∈ moments, moment.exchange.request.Heeding context := by
    intro moment member
    exact (Program.AsksOnly.of_leads (command.asksOnly_heeding context) yields).1 _
      (List.mem_map_of_mem member)
  have onlyReread : ∀ moment ∈ moments, moment.cancelled = true → moment.startsCall = true →
      ∃ answer, moment.exchange = .reread context answer := by
    intro moment member cancelled starts
    exact reread_of_startsCall (heeding moment member) cancelled starts
  have rereads := Command.rereadsOnce yields
  refine ⟨heeds.final, ?refused, ?untouched, onlyReread, ?once, ?behindWrite⟩
  case refused =>
    intro moment member cancelled isCall
    cases begun : moment.isBegun with
    | false => exact Or.inl (heeds.refused moment member begun)
    | true =>
        exact Or.inr (onlyReread moment member cancelled (Bool.and_eq_true_iff.mpr ⟨isCall, begun⟩))
  case untouched =>
    intro moment member unbegun world sameClock
    have isCancelled := heeds.refused moment member unbegun
    unfold Moment.isBegun at unbegun
    rw [← sameClock] at unbegun
    exact Simulation.run_answer_of_not_begun unbegun isCancelled
  case once =>
    -- whatever is started after cancellation reads again, and that happens once at most
    have bound := rereads.countP_le_one
    rw [List.countP_map] at bound
    refine Nat.le_trans (List.countP_mono_left ?_) bound
    intro moment member starts
    obtain ⟨cancelled, starts⟩ := Bool.and_eq_true_iff.mp starts
    obtain ⟨answer, same⟩ := onlyReread moment member cancelled starts
    rw [Function.comp_apply, same]
    rfl
  case behindWrite =>
    intro before moment after answer split same
    rw [split, List.map_append, List.map_cons, same] at rereads
    obtain ⟨earlier, written, version, cause, found⟩ := rereads.behind_write
    obtain ⟨front, back, rfl, -, last⟩ := List.map_eq_append_iff.mp found
    obtain ⟨writing, rest, rfl, first, none⟩ := List.map_eq_cons_iff.mp last
    obtain rfl := List.map_eq_nil_iff.mp none
    exact ⟨front, writing, written, version, cause, rfl, first⟩

/-- Once its request is cancelled, a command starts nothing but the read that finds out about a
write without an answer. If it was cancelled before, then nothing is started at all. -/
theorem nothing_starts_after_cancellation
    {clock final : Simulation.Clock} {moments : List Moment}
    {result : Except RegistryError Reply}
    (course : Course clock (command.operation context).run moments final result) :
    Stops context moments ∧
      (clock.isCancelled = true →
        (∀ moment ∈ moments, moment.startsCall = false) ∧
          ((∃ error, command.check = .error error ∧ error.kind = .validation ∧
              result = .error error) ∨
            (command.check = .ok () ∧
              ∃ error, result = .error error ∧ error.kind = .dependencyFailure))) := by
  obtain ⟨heeds, still⟩ := course.timed.heeds
  have stops := stops_of_heeds heeds course.yields
  refine ⟨stops, ?_⟩
  intro was
  have cancelled := still was
  obtain ⟨never, ended⟩ :=
    Command.refused_of_allRefused (allRefused_of_cancelled heeds cancelled) course.yields
  constructor
  · intro moment member
    cases starts : moment.startsCall with
    | false => rfl
    | true =>
        obtain ⟨answer, same⟩ := stops.onlyReread moment member (cancelled moment member) starts
        have impossible := never _ (List.mem_map_of_mem member)
        rw [same] at impossible
        cases impossible
  · rcases ended with ⟨error, checked, rfl⟩ | ⟨checked, rfl⟩
    · exact Or.inl ⟨error, checked, Command.kind_of_check checked, rfl⟩
    · exact Or.inr ⟨checked, _, rfl, rfl⟩

end Stopping

/-! ## A write that is cut off -/

namespace CutOffWrite

def context : Context :=
  ⟨{}, ⟨"default", "sales"⟩⟩

def edit : Edit :=
  .deleteFunction "1"

def document : PipelineDocument :=
  { transformFunctions := [{ id := "1", name := "trim" }] }

/-- The request is cancelled at the fifth millisecond. -/
def clock : Simulation.Clock :=
  { now := 0, cancelledAt := some 5 }

/-- The write would be answered at the twelfth millisecond. It has been stored before. -/
def moments : List Moment :=
  [⟨clock, .load context (.ok (document, .ofCounter 1))⟩,
    ⟨⟨2, some 5⟩, .write context {} (.ofCounter 1) (.error (.interrupted .cancelled))⟩,
    ⟨⟨5, some 5⟩, .reread context (.ok ({}, .ofCounter 2))⟩,
    ⟨⟨5, some 5⟩, .counted (.mutations .transformFunction .delete)⟩]

theorem course :
    Course clock ((Command.edit edit).operation context).run moments ⟨5, some 5⟩
      (.ok (.outcome ⟨"1", []⟩)) where
  yields :=
    Operation.yields_map_iff.mpr ⟨.ok ⟨"1", []⟩,
      edit.yields_without_notices "1" rfl (.of_not_creation rfl)
        (Attempts.recovered document (.ofCounter 1) (.ofCounter 2) .cancelled rfl), rfl⟩
  timed := by
    have loaded : Replies clock (.load context (.ok (document, .ofCounter 1))) ⟨2, some 5⟩ :=
      Replies.store context.settings.bound (.get context.key) 2
        (.ok (document, .ofCounter 1))
    have written : Replies ⟨2, some 5⟩
        (.write context {} (.ofCounter 1) (.error (.interrupted .cancelled))) ⟨5, some 5⟩ :=
      Replies.store context.settings.bound (.update context.key {} (.ofCounter 1)) 10
        (.ok (.ofCounter 2))
    have reread : Replies ⟨5, some 5⟩
        (.reread context (.ok ({}, .ofCounter 2))) ⟨5, some 5⟩ :=
      Replies.store context.settings.unheedingBound (.get context.key) 0
        (.ok ({}, .ofCounter 2))
    exact Timed.exchange loaded (Timed.exchange written (Timed.exchange reread
      (Timed.exchange (Replies.counted _) (Timed.done _))))

/-- The same request, cancelled before it begins. -/
def early : Simulation.Clock :=
  { now := 0, cancelledAt := some 0 }

theorem earlyCourse :
    Course early ((Command.edit edit).operation context).run
      [⟨early, .load context (.error (.interrupted .cancelled))⟩] early
      (.error (.interrupted .cancelled)) where
  yields :=
    Operation.yields_map_iff.mpr ⟨.error (.interrupted .cancelled),
      edit.yields_of_failed_attempts rfl (.of_not_creation rfl)
        (Attempts.unread (.interrupted .cancelled)), rfl⟩
  timed := by
    have refused : Replies early (.load context (.error (.interrupted .cancelled))) early :=
      Replies.store context.settings.bound (.get context.key) 2
        (.ok (document, .ofCounter 1))
    exact Timed.exchange refused (Timed.done _)

end CutOffWrite

theorem nothing_starts_after_cancellation_cutOffWrite :
    (Course CutOffWrite.clock
        ((Command.edit CutOffWrite.edit).operation CutOffWrite.context).run
        CutOffWrite.moments ⟨5, some 5⟩ (.ok (.outcome ⟨"1", []⟩)) ∧
      Stops CutOffWrite.context CutOffWrite.moments) ∧
    CutOffWrite.early.isCancelled = true ∧
      ∀ moment ∈ [(⟨CutOffWrite.early,
          .load CutOffWrite.context (.error (.interrupted .cancelled))⟩ : Moment)],
        moment.startsCall = false :=
  ⟨⟨CutOffWrite.course, (nothing_starts_after_cancellation CutOffWrite.course).1⟩, rfl,
    ((nothing_starts_after_cancellation CutOffWrite.earlyCourse).2 rfl).1⟩

end PipelineRegistry
