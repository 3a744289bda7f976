import PipelineRegistry.Proofs.Run

/-!
# Documents that are committed

A caller commits a document when its write takes effect, with or without an answer. Every document
that is committed has been drafted by an edit from a document that the caller read while it was
stored, and no caller commits more than once.
-/

namespace PipelineRegistry

/-! ## Answers of the store -/

section Answers

variable {reliability : Reliability} {caller : Nat} {database after : Database} {bound : Bound}

theorem Answers.store_cases
    {call : StoreCall} {answer : Except (CallError StoreError) call.Answer}
    (answers : Answers reliability caller database ⟨.store bound call, answer⟩ after) :
    (answer = database.store.answer call ∧
      after = { database with store := database.store.after call }) ∨
    ∃ failure, answer = .error failure ∧ reliability = .faulty ∧
      (failure.isRefusal = true ∧ after = database ∨
        failure.isRefusal = false ∧
          after = { database with adrift := (caller, call) :: database.adrift }) := by
  cases answers with
  | performed => exact Or.inl ⟨rfl, rfl⟩
  | refused faulty _ _ refusal => exact Or.inr ⟨_, rfl, faulty, Or.inl ⟨refusal, rfl⟩⟩
  | lost faulty _ _ doubtful => exact Or.inr ⟨_, rfl, faulty, Or.inr ⟨doubtful, rfl⟩⟩

theorem Answers.failed
    {call : StoreCall} {failure : CallError StoreError}
    (failed : database.store.answer call = .error failure) :
    Answers reliability caller database ⟨.store bound call, .error failure⟩ database := by
  have performed : Answers reliability caller database _ _ := Answers.performed bound call
  rw [failed, Store.after_of_answer_error failed] at performed
  exact performed

theorem Answers.succeeded
    {call : StoreCall} {answered : call.Answer}
    (succeeded : database.store.answer call = .ok answered) :
    Answers reliability caller database ⟨.store bound call, .ok answered⟩
      { database with store := database.store.after call } := by
  rw [← succeeded]
  exact Answers.performed bound call

theorem Answers.of_ok
    {call : StoreCall} {answered : call.Answer}
    (answers : Answers reliability caller database ⟨.store bound call, .ok answered⟩ after) :
    database.store.answer call = .ok answered ∧
      after = { database with store := database.store.after call } := by
  rcases answers.store_cases with ⟨same, became⟩ | ⟨failure, impossible, _⟩
  · exact ⟨same.symm, became⟩
  · cases impossible

end Answers

/-! ## Drafts -/

/-- How a write comes about that a caller makes behind these events: the caller
has read the document when it was stored, has done nothing since, applies its
edit to it, and nothing it did before can have been stored. -/
inductive Draft (initial : Store) (caller : Nat) (context : Context) (edit : Edit)
    (before : List Event) (written : PipelineDocument) (version : Version) : Prop
  | intro (id : String) (document : PipelineDocument) (counter : Int) (receipt : Receipt)
      (earlier later : List Event)
      (asked : .invoked caller context (.edit edit) ∈ earlier)
      (read : before =
        earlier ++ .exchanged caller (.load context (.ok (document, version))) :: later)
      (current : (initial.replay earlier).find? context.key = some ⟨document, counter⟩)
      (presented : version = .ofCounter counter)
      (idle : historyOf caller later = [])
      (changed : edit.change context id document = .ok (written, receipt))
      (named : edit.isCreation = true → .exchanged caller ⟨.freshId, id⟩ ∈ earlier)
      (harmless : ∀ exchange ∈ historyOf caller earlier, exchange.mayStore = false)

variable {reliability : Reliability} {initial : Store} {final : Database}
  {trace before behind : List Event} {caller : Nat} {key : PipelineKey}
  {written document : PipelineDocument} {version : Version} {bound : Bound}
  {context : Context} {edit : Edit}

/-- Nothing that a caller did before a write can have been stored. -/
theorem Draft.mayStore_eq_false
    (draft : Draft initial caller context edit before written version) :
    ∀ exchange ∈ historyOf caller before, exchange.mayStore = false := by
  obtain ⟨_, document, _, _, earlier, later, _, rfl, _, _, idle, _, _, harmless⟩ := draft
  intro exchange member
  rw [historyOf_append, historyOf_cons_exchanged, idle] at member
  rcases List.mem_append.mp member with member | member
  · exact harmless exchange member
  · obtain rfl := List.mem_singleton.mp member
    rfl

theorem Draft.asked_before
    (draft : Draft initial caller context edit before written version) :
    .invoked caller context (.edit edit) ∈ before := by
  obtain ⟨_, _, _, _, _, _, asked, rfl, _⟩ := draft
  exact List.mem_append_left _ asked

namespace Run

theorem current_of_get
    (run : Run reliability initial
      (before ++ .exchanged caller ⟨.store bound (.get key), .ok (document, version)⟩ :: behind)
      final) :
    ∃ counter,
      (initial.replay before).find? key = some ⟨document, counter⟩ ∧
        version = .ofCounter counter := by
  obtain ⟨database, after, runBefore, step⟩ := run.split
  cases step with
  | exchanged asked running leads answers =>
      obtain ⟨answered, -⟩ := answers.of_ok
      rw [runBefore.store_eq] at answered
      exact Store.answer_get_eq_ok_iff.mp answered

/-- Every write of a run has been drafted. -/
theorem draft
    {answer : Except (CallError StoreError) Version}
    (run : Run reliability initial
      (before ++ .exchanged caller ⟨.store bound (.update key written version), answer⟩ :: behind)
      final) :
    ∃ context edit,
      context.key = key ∧ Draft initial caller context edit before written version := by
  obtain ⟨database, after, runBefore, step⟩ := run.split
  cases step with
  | @exchanged _ context command _ next _ asked running leads answers =>
      obtain ⟨edit, rfl, rfl, drafted⟩ := Command.drafted_of_asked leads
      obtain ⟨history, document, receipt, read, changed, named, harmless⟩ := drafted
      obtain ⟨earlier, later, rfl, rfl, idle⟩ := historyOf_split read
      obtain ⟨counter, current, presented⟩ := runBefore.current_of_get
      rw [read] at changed named
      have askedEarlier : .invoked caller context (.edit edit) ∈ earlier := by
        obtain ⟨_, _, runEarlier, readStep⟩ := runBefore.split
        cases readStep with
        | exchanged askedBefore _ _ _ =>
            obtain ⟨rfl, rfl⟩ :=
              runBefore.asked_unique asked (List.mem_append_left _ askedBefore)
            exact askedBefore
      refine ⟨context, edit, rfl, _, document, counter, receipt, earlier, later, askedEarlier,
        rfl, current, presented, idle, changed, ?_, harmless⟩
      intro creates
      rcases List.mem_append.mp (named creates) with member | member
      · exact mem_historyOf_iff.mp member
      · cases List.mem_singleton.mp member

end Run

/-! ## Commits -/

/-- A document that a caller has committed under a key, in the place of one at
the version presented. -/
structure Commit where
  caller : Nat
  key : PipelineKey
  document : PipelineDocument
  version : Version
  deriving DecidableEq, Repr

namespace Commit

def call (commit : Commit) : StoreCall :=
  .update commit.key commit.document commit.version

end Commit

def Event.commit? : Event → Option Commit
  | exchanged caller ⟨.store _ (.update key document version), .ok _⟩ =>
      some ⟨caller, key, document, version⟩
  | landed caller (.update key document version) => some ⟨caller, key, document, version⟩
  | _ => none

def commits (trace : List Event) : List Commit :=
  trace.filterMap Event.commit?

variable {event : Event} {commit : Commit}

@[simp]
theorem commits_nil : commits [] = [] :=
  rfl

@[simp]
theorem commits_append (earlier later : List Event) :
    commits (earlier ++ later) = commits earlier ++ commits later :=
  List.filterMap_append

theorem commits_singleton (event : Event) : commits [event] = event.commit?.toList := by
  cases found : event.commit? with
  | none => simp [commits, found]
  | some commit => simp [commits, found]

theorem commit?_eq_some_iff :
    event.commit? = some commit ↔
      (∃ bound token,
        event = .exchanged commit.caller ⟨.store bound commit.call, .ok token⟩) ∨
      event = .landed commit.caller commit.call := by
  constructor
  · intro found
    unfold Event.commit? at found
    split at found
    · cases found
      exact Or.inl ⟨_, _, rfl⟩
    · cases found
      exact Or.inr rfl
    · cases found
  · rintro (⟨bound, token, rfl⟩ | rfl)
    · rfl
    · rfl

theorem mem_commits_iff :
    commit ∈ commits trace ↔
      ∃ before event behind,
        trace = before ++ event :: behind ∧ event.commit? = some commit := by
  unfold commits
  rw [List.mem_filterMap]
  constructor
  · rintro ⟨event, member, found⟩
    obtain ⟨before, behind, rfl⟩ := List.append_of_mem member
    exact ⟨before, event, behind, rfl, found⟩
  · rintro ⟨before, event, behind, rfl, found⟩
    exact ⟨event, by simp, found⟩

namespace Run

/-- A call that is adrift was made by its caller, and its answer was lost. -/
theorem lost_of_adrift
    (run : Run reliability initial trace final)
    {call : StoreCall} (adrift : (caller, call) ∈ final.adrift) :
    ∃ bound failure,
      failure.isRefusal = false ∧
        .exchanged caller ⟨.store bound call, .error failure⟩ ∈ trace := by
  induction run with
  | start => cases adrift
  | @step trace database after event run step inductionHypothesis =>
      have before (adrift : (caller, call) ∈ database.adrift) :
          ∃ bound failure,
            failure.isRefusal = false ∧
              .exchanged caller ⟨.store bound call, .error failure⟩ ∈ trace ++ [event] := by
        obtain ⟨bound, failure, doubtful, member⟩ := inductionHypothesis adrift
        exact ⟨bound, failure, doubtful, List.mem_append_left _ member⟩
      cases step with
      | invoked caller context command new => exact before adrift
      | returned asked running yields => exact before adrift
      | rival faulty call => exact before adrift
      | landed front back faulty split succeeds =>
          apply before
          rw [split]
          rcases List.mem_append.mp adrift with member | member
          · exact List.mem_append_left _ member
          · exact List.mem_append_right _ (List.mem_cons_of_mem _ member)
      | exchanged asked running leads answers =>
          cases answers with
          | lost faulty bound lostCall doubtful =>
              rcases List.mem_cons.mp adrift with same | member
              · cases same
                exact ⟨bound, _, doubtful, by simp⟩
              · exact before member
          | _ => exact before adrift

/-- A commit replaces the document at the version presented. -/
theorem find?_of_commit
    (run : Run reliability initial (before ++ event :: behind) final)
    (committed : event.commit? = some commit) :
    ∃ stored,
      (initial.replay before).find? commit.key = some stored ∧
        stored.version = commit.version ∧
        (initial.replay (before ++ [event])).find? commit.key =
          some ⟨commit.document, stored.counter + 1⟩ := by
  obtain ⟨database, after, runBefore, step⟩ := run.split
  have succeeded :
      ∃ token, database.store.answer commit.call = .ok token := by
    rcases commit?_eq_some_iff.mp committed with ⟨bound, token, rfl⟩ | rfl
    · cases step with
      | exchanged asked running leads answers => exact ⟨token, answers.of_ok.1⟩
    · cases step with
      | landed front back faulty adrift succeeds =>
          cases answered : database.store.answer commit.call with
          | ok token => exact ⟨token, rfl⟩
          | error failure =>
              rw [answered] at succeeds
              cases succeeds
  have effect : event.effect? = some commit.call := by
    rcases commit?_eq_some_iff.mp committed with ⟨bound, token, rfl⟩ | rfl
    · rfl
    · rfl
  obtain ⟨token, answered⟩ := succeeded
  rw [runBefore.store_eq] at answered
  obtain ⟨stored, known, current, -⟩ := Store.answer_update_eq_ok_iff.mp answered
  refine ⟨stored, known, current, ?_⟩
  rw [Store.replay_append_of_some _ _ effect, Commit.call,
    Store.find?_after_update _ _ known current, if_pos rfl]

/-- Every commit goes back to a write that may have been stored, even if it
takes effect much later. -/
theorem attempted_of_commit
    (run : Run reliability initial (before ++ event :: behind) final)
    (committed : event.commit? = some commit) :
    ∃ bound answer earlier later,
      before ++ [event] =
        earlier ++ .exchanged commit.caller ⟨.store bound commit.call, answer⟩ :: later ∧
      Exchange.mayStore ⟨.store bound commit.call, answer⟩ = true := by
  rcases commit?_eq_some_iff.mp committed with ⟨bound, token, rfl⟩ | rfl
  · exact ⟨bound, .ok token, before, [], rfl, rfl⟩
  · obtain ⟨database, after, runBefore, step⟩ := run.split
    cases step with
    | landed front back faulty adrift succeeds =>
        have member : (commit.caller, commit.call) ∈ database.adrift := by
          rw [adrift]
          simp
        obtain ⟨bound, failure, doubtful, attempted⟩ := runBefore.lost_of_adrift member
        obtain ⟨earlier, later, rfl⟩ := List.append_of_mem attempted
        refine ⟨bound, .error failure, earlier,
          later ++ [.landed commit.caller commit.call], by simp, ?_⟩
        simp [Exchange.mayStore, Commit.call, doubtful]

theorem draft_of_commit
    (run : Run reliability initial (before ++ event :: behind) final)
    (committed : event.commit? = some commit) :
    ∃ context edit earlier,
      context.key = commit.key ∧ earlier <+: before ∧
        Draft initial commit.caller context edit earlier commit.document commit.version := by
  obtain ⟨bound, answer, earlier, later, split, -⟩ := run.attempted_of_commit committed
  have whole :
      before ++ event :: behind =
        earlier ++ .exchanged commit.caller ⟨.store bound commit.call, answer⟩ ::
          (later ++ behind) := by
    rw [List.append_cons, split]
    simp
  rw [whole] at run
  obtain ⟨context, edit, addressed, draft⟩ := run.draft
  rcases append_singleton_cases split with ⟨_, impossible⟩ | ⟨between, rfl, _⟩
  · cases impossible
  · exact ⟨context, edit, earlier, addressed, List.prefix_append _ _, draft⟩

end Run

/-! ## One commit for each caller -/

/-- A call of a caller that would write a document. -/
def isWriteOf (caller : Nat) : Nat × StoreCall → Bool
  | (other, .update _ _ _) => other = caller
  | _ => false

theorem countP_le_one
    {β : Type} {chosen : β → Bool} {list : List β}
    (alone : ∀ before element after, list = before ++ element :: after →
      chosen element = true → ∀ earlier ∈ before, chosen earlier = false) :
    list.countP chosen ≤ 1 := by
  induction list with
  | nil => simp
  | cons first rest inductionHypothesis =>
      cases picked : chosen first with
      | false =>
          rw [List.countP_cons_of_neg (by simp [picked])]
          apply inductionHypothesis
          intro before element after split isChosen earlier member
          apply alone (first :: before) element after (by rw [split]; rfl) isChosen
          exact List.mem_cons_of_mem _ member
      | true =>
          rw [List.countP_cons_of_pos picked]
          have none : rest.countP chosen = 0 := by
            apply List.countP_eq_zero.mpr
            intro element member isChosen
            obtain ⟨before, after, rfl⟩ := List.append_of_mem member
            have impossible :=
              alone (first :: before) element after rfl isChosen first List.mem_cons_self
            rw [picked] at impossible
            cases impossible
          omega

theorem eq_of_countP_le_one
    {β : Type} {chosen : β → Bool} {list : List β} {first second : β}
    (alone : list.countP chosen ≤ 1)
    (inFirst : first ∈ list) (isFirst : chosen first = true)
    (inSecond : second ∈ list) (isSecond : chosen second = true) :
    first = second := by
  obtain ⟨front, back, rfl⟩ := List.append_of_mem inFirst
  rw [List.countP_append, List.countP_cons_of_pos isFirst] at alone
  rcases List.mem_append.mp inSecond with member | member
  · have more := List.countP_pos_iff.mpr ⟨second, member, isSecond⟩
    omega
  · rcases List.mem_cons.mp member with same | member
    · exact same.symm
    · have more := List.countP_pos_iff.mpr ⟨second, member, isSecond⟩
      omega

theorem place_of_countP_le_one
    {β : Type} {chosen : β → Bool} {before behind front back : List β} {first second : β}
    (alone : (before ++ first :: behind).countP chosen ≤ 1)
    (isFirst : chosen first = true) (isSecond : chosen second = true)
    (split : before ++ first :: behind = front ++ second :: back) :
    front = before ∧ second = first := by
  induction before generalizing front with
  | nil =>
      rcases cons_eq_append_cons split with ⟨rfl, rfl⟩ | ⟨between, rfl, rfl⟩
      · exact ⟨rfl, rfl⟩
      · have two : 0 < (between ++ second :: back).countP chosen :=
          List.countP_pos_iff.mpr ⟨second, by simp, isSecond⟩
        rw [List.nil_append, List.countP_cons_of_pos isFirst] at alone
        omega
  | cons earliest rest inductionHypothesis =>
      rcases cons_eq_append_cons split with ⟨rfl, rfl⟩ | ⟨between, rfl, same⟩
      · have two : 0 < (rest ++ first :: behind).countP chosen :=
          List.countP_pos_iff.mpr ⟨first, by simp, isFirst⟩
        rw [List.cons_append, List.countP_cons_of_pos isSecond] at alone
        omega
      · rw [List.cons_append, List.countP_cons] at alone
        obtain ⟨rfl, rfl⟩ := inductionHypothesis (by omega) same
        exact ⟨rfl, rfl⟩

theorem mayStore_cases
    {exchange : Exchange} (stores : exchange.mayStore = true) :
    ∃ bound key document version answer,
      exchange = ⟨.store bound (.update key document version), answer⟩ := by
  unfold Exchange.mayStore at stores
  split at stores
  · exact ⟨_, _, _, _, _, rfl⟩
  · exact ⟨_, _, _, _, _, rfl⟩
  · cases stores

namespace Run

theorem countP_of_own_answers
    {exchange : Exchange} {caller : Nat} {database after : Database}
    (answers : Answers reliability caller database exchange after) :
    (commits [.exchanged caller exchange]).countP (·.caller = caller) +
        after.adrift.countP (isWriteOf caller) =
      database.adrift.countP (isWriteOf caller) +
        (historyOf caller [.exchanged caller exchange]).countP Exchange.mayStore := by
  rw [historyOf_exchanged, commits_singleton]
  cases answers with
  | performed bound call =>
      cases answered : database.store.answer call with
      | ok token =>
          cases call with
          | update key document version =>
              simp [Event.commit?, Exchange.mayStore]
              omega
          | _ => simp [Event.commit?, Exchange.mayStore]
      | error failure =>
          have refusal := Store.isRefusal_of_answer_error answered
          cases call with
          | update key document version => simp [Event.commit?, Exchange.mayStore, refusal]
          | _ => simp [Event.commit?, Exchange.mayStore]
  | refused faulty bound call refusal =>
      cases call with
      | update key document version => simp [Event.commit?, Exchange.mayStore, refusal]
      | _ => simp [Event.commit?, Exchange.mayStore]
  | lost faulty bound call doubtful =>
      cases call with
      | update key document version =>
          simp [Event.commit?, Exchange.mayStore, isWriteOf, doubtful]
      | _ => simp [Event.commit?, Exchange.mayStore, isWriteOf]
  | _ => simp [Event.commit?, Exchange.mayStore]

theorem countP_of_other_answers
    {exchange : Exchange} {other caller : Nat} {database after : Database}
    (answers : Answers reliability other database exchange after) (differs : ¬ other = caller) :
    (commits [.exchanged other exchange]).countP (·.caller = caller) +
        after.adrift.countP (isWriteOf caller) =
      database.adrift.countP (isWriteOf caller) +
        (historyOf caller [.exchanged other exchange]).countP Exchange.mayStore := by
  rw [historyOf_exchanged_of_ne differs, commits_singleton]
  have uncommitted :
      (Event.commit? (.exchanged other exchange)).toList.countP (·.caller = caller) = 0 := by
    apply List.countP_eq_zero.mpr
    intro commit member
    rw [Option.mem_toList, commit?_eq_some_iff] at member
    rcases member with ⟨bound, token, found⟩ | impossible
    · cases found
      simpa using differs
    · cases impossible
  rw [uncommitted]
  cases answers with
  | lost faulty bound call doubtful =>
      cases call with
      | update key document version => simp [isWriteOf, differs]
      | _ => simp [isWriteOf]
  | _ => simp

theorem countP_of_answers
    {exchange : Exchange} {other : Nat} {database after : Database}
    (answers : Answers reliability other database exchange after) (caller : Nat) :
    (commits [.exchanged other exchange]).countP (·.caller = caller) +
        after.adrift.countP (isWriteOf caller) =
      database.adrift.countP (isWriteOf caller) +
        (historyOf caller [.exchanged other exchange]).countP Exchange.mayStore := by
  by_cases same : other = caller
  · subst same
    exact countP_of_own_answers answers
  · exact countP_of_other_answers answers same

/-- The commits of a caller and its calls that are adrift are its writes that
may have been stored. -/
theorem countP_commits
    (run : Run reliability initial trace final) (caller : Nat) :
    (commits trace).countP (·.caller = caller) + final.adrift.countP (isWriteOf caller) =
      (historyOf caller trace).countP Exchange.mayStore := by
  induction run with
  | start => rfl
  | @step trace database after event run step inductionHypothesis =>
      rw [commits_append, historyOf_append, List.countP_append, List.countP_append]
      cases step with
      | invoked other context command new => exact inductionHypothesis
      | returned asked running yields => exact inductionHypothesis
      | rival faulty call => exact inductionHypothesis
      | @landed other call front back faulty adrift succeeds =>
          rw [adrift, List.countP_append] at inductionHypothesis
          have nothing : historyOf caller [.landed other call] = [] := rfl
          rw [nothing, List.countP_append]
          cases call with
          | update key document version =>
              by_cases same : other = caller
              · simp [commits_singleton, Event.commit?, isWriteOf, same] at inductionHypothesis ⊢
                omega
              · simp [commits_singleton, Event.commit?, isWriteOf, same] at inductionHypothesis ⊢
                omega
          | _ => exact inductionHypothesis
      | exchanged asked running leads answers =>
          have balance := countP_of_answers answers caller
          omega

/-- Of the writes of a caller, at most one can have been stored. -/
theorem countP_mayStore_le_one
    (run : Run reliability initial trace final) (caller : Nat) :
    (historyOf caller trace).countP Exchange.mayStore ≤ 1 := by
  apply countP_le_one
  intro before exchange after split stores earlier member
  obtain ⟨bound, key, document, version, answer, rfl⟩ := mayStore_cases stores
  obtain ⟨front, back, rfl, rfl, rfl⟩ := historyOf_split split
  obtain ⟨_, _, -, draft⟩ := run.draft
  exact draft.mayStore_eq_false earlier member

/-- No caller commits twice. -/
theorem countP_commits_le_one
    (run : Run reliability initial trace final) (caller : Nat) :
    (commits trace).countP (·.caller = caller) ≤ 1 := by
  have balance := run.countP_commits caller
  have bound := run.countP_mayStore_le_one caller
  omega

/-- A caller commits in one place only. -/
theorem place_of_commit
    {front back : List Event} {other : Event} {second : Commit}
    (run : Run reliability initial (before ++ event :: behind) final)
    (committed : event.commit? = some commit)
    (split : before ++ event :: behind = front ++ other :: back)
    (again : other.commit? = some second) (same : second.caller = commit.caller) :
    front = before ∧ second = commit := by
  have alone := run.countP_commits_le_one commit.caller
  rw [commits, List.countP_filterMap] at alone
  obtain ⟨place, rfl⟩ := place_of_countP_le_one alone (by simp [committed])
    (by simp [again, same]) split
  rw [committed] at again
  exact ⟨place, (Option.some.inj again).symm⟩

/-- If a caller commits at all, then it commits the write that may have been
stored. -/
theorem commit_eq_of_mayStore
    {answer : Except (CallError StoreError) Version}
    (run : Run reliability initial trace final)
    (member : .exchanged caller ⟨.store bound (.update key document version), answer⟩ ∈ trace)
    (stores : Exchange.mayStore ⟨.store bound (.update key document version), answer⟩ = true)
    (committed : commit ∈ commits trace) (sameCaller : commit.caller = caller) :
    commit = ⟨caller, key, document, version⟩ := by
  subst sameCaller
  obtain ⟨before, event, behind, rfl, found⟩ := mem_commits_iff.mp committed
  obtain ⟨otherBound, otherAnswer, earlier, later, split, otherStores⟩ :=
    run.attempted_of_commit found
  have otherMember :
      .exchanged commit.caller ⟨.store otherBound commit.call, otherAnswer⟩ ∈
        before ++ event :: behind := by
    rw [List.append_cons, split]
    simp
  have same := eq_of_countP_le_one (run.countP_mayStore_le_one commit.caller)
    (mem_historyOf_iff.mpr otherMember) otherStores (mem_historyOf_iff.mpr member) stores
  obtain ⟨caller, key, document, version⟩ := commit
  cases same
  rfl

/-- A caller whose writes were all refused commits nothing. -/
theorem caller_ne_of_harmless
    (run : Run reliability initial trace final)
    (harmless : ∀ exchange ∈ historyOf caller trace, exchange.mayStore = false)
    (commit : Commit) (committed : commit ∈ commits trace) :
    commit.caller ≠ caller := by
  have none : (historyOf caller trace).countP Exchange.mayStore = 0 := by
    apply List.countP_eq_zero.mpr
    intro exchange member
    simp [harmless exchange member]
  have balance := run.countP_commits caller
  have nothing : (commits trace).countP (·.caller = caller) = 0 := by omega
  simpa using List.countP_eq_zero.mp nothing commit committed

theorem commit_of_stored
    {key : PipelineKey} {document : PipelineDocument} {version token : Version}
    (stored : .exchanged caller ⟨.store bound (.update key document version), .ok token⟩ ∈ trace) :
    ⟨caller, key, document, version⟩ ∈ commits trace :=
  List.mem_filterMap.mpr ⟨_, stored, rfl⟩

end Run

end PipelineRegistry
