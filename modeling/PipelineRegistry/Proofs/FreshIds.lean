import PipelineRegistry.Proofs.Commits
import PipelineRegistry.Proofs.DocumentIds

/-!
# Fresh ids

An id that is given out is new: it has never been in the store, it is given out once, and nobody can
write it who has not read it in the store. Then an id that was given to a caller can only come into
the store by a commit of that caller.
-/

namespace PipelineRegistry

/-! ## Ids in stores -/

def Store.Holds (store : Store) (id : String) : Prop :=
  ∃ key stored, store.find? key = some stored ∧ id ∈ stored.document.ids

/-- An id has been in the store at some time. -/
def Occurs (initial : Store) (trace : List Event) (id : String) : Prop :=
  ∃ earlier, earlier <+: trace ∧ (initial.replay earlier).Holds id

/-- New ids are new, and clients that do not use the registry do not guess them. -/
structure FreshIds (initial : Store) (trace : List Event) : Prop where
  unused : ∀ before caller id after,
    trace = before ++ .exchanged caller ⟨.freshId, id⟩ :: after →
    ¬ Occurs initial before id ∧ ∀ other, .exchanged other ⟨.freshId, id⟩ ∉ before
  unguessed : ∀ before key document version after caller id,
    trace = before ++ .rival (.update key document version) :: after →
    id ∈ document.ids → .exchanged caller ⟨.freshId, id⟩ ∈ before → Occurs initial before id

section Runs

variable {reliability : Reliability} {initial store : Store} {final : Database}
  {trace earlier later before behind : List Event} {event : Event} {caller other : Nat}
  {id : String}

theorem FreshIds.of_append
    (fresh : FreshIds initial (earlier ++ later)) :
    FreshIds initial earlier where
  unused := by
    intro before caller id after split
    exact fresh.unused before caller id (after ++ later) (by simp [split])
  unguessed := by
    intro before key document version after caller id split
    exact fresh.unguessed before key document version (after ++ later) caller id (by simp [split])

theorem FreshIds.caller_unique
    (fresh : FreshIds initial trace)
    (issued : .exchanged caller ⟨.freshId, id⟩ ∈ trace)
    (issuedAgain : .exchanged other ⟨.freshId, id⟩ ∈ trace) :
    caller = other := by
  obtain ⟨before, after, split⟩ := List.append_of_mem issued
  rw [split] at issuedAgain
  rcases List.mem_append.mp issuedAgain with member | member
  · exact absurd member ((fresh.unused before caller id after split).2 other)
  · rcases List.mem_cons.mp member with same | member
    · cases same
      rfl
    · obtain ⟨between, rest, rfl⟩ := List.append_of_mem member
      have former : .exchanged caller ⟨.freshId, id⟩ ∈
          before ++ .exchanged caller ⟨.freshId, id⟩ :: between := by simp
      exact absurd former ((fresh.unused (before ++ .exchanged caller ⟨.freshId, id⟩ :: between)
        other id rest (by simp [split])).2 caller)

theorem Occurs.of_holds (holds : (initial.replay trace).Holds id) : Occurs initial trace id :=
  ⟨trace, List.prefix_rfl, holds⟩

theorem Occurs.append (occurs : Occurs initial trace id) (later : List Event) :
    Occurs initial (trace ++ later) id := by
  obtain ⟨earlier, former, holds⟩ := occurs
  exact ⟨earlier, former.trans (List.prefix_append _ _), holds⟩

theorem Occurs.holds_of_idle
    (occurs : Occurs initial trace id) (idle : ∀ event ∈ trace, event.effect? = none) :
    initial.Holds id := by
  obtain ⟨earlier, ⟨later, rfl⟩, holds⟩ := occurs
  have nothing : earlier.filterMap Event.effect? = [] := by
    apply List.filterMap_eq_nil_iff.mpr
    intro event member
    exact idle event (List.mem_append_left _ member)
  rw [Store.replay, nothing] at holds
  exact holds

/-- If one id is given out, and only callers write, then new ids are fresh. -/
theorem FreshIds.of_one
    (new : ¬ Occurs initial before id)
    (unnamed : ∀ other issued, .exchanged other ⟨.freshId, issued⟩ ∉ before ++ behind)
    (own : ∀ key document version,
      .rival (.update key document version) ∉ before ++ .exchanged caller ⟨.freshId, id⟩ :: behind) :
    FreshIds initial (before ++ .exchanged caller ⟨.freshId, id⟩ :: behind) where
  unused := by
    intro earlier other issued later split
    have absent : .exchanged other ⟨.freshId, issued⟩ ∉ before := fun member =>
      unnamed other issued (List.mem_append_left _ member)
    obtain ⟨between, rfl, tail⟩ := split_behind absent split
    rcases cons_eq_append_cons tail with ⟨rfl, same⟩ | ⟨rest, rfl, rfl⟩
    · cases same
      rw [List.append_nil]
      exact ⟨new, fun another member =>
        unnamed another id (List.mem_append_left _ member)⟩
    · exact absurd (by simp) (unnamed other issued)
  unguessed := by
    intro earlier key document version later another issued split
    exact absurd (by rw [split]; simp) (own key document version)

/-- An id comes into a store by a document that is written. -/
theorem Store.holds_after
    {call : StoreCall} (holds : (store.after call).Holds id) :
    store.Holds id ∨
      ∃ key document version, call = .update key document version ∧ id ∈ document.ids := by
  obtain ⟨key, stored, found, member⟩ := holds
  rcases store.find?_after_cases call key with
    same | ⟨document, former, rfl, -, written⟩ | ⟨-, -, created⟩ | ⟨-, removed⟩
  · exact Or.inl ⟨key, stored, same ▸ found, member⟩
  · rw [written] at found
    cases found
    exact Or.inr ⟨key, document, _, rfl, member⟩
  · rw [created] at found
    cases found
    cases member
  · rw [removed] at found
    cases found

/-! ## Who brings an id into the store -/

/-- An id that comes into the store in the course of an event was there before,
or was given to the caller that has committed, or was written by a rival. -/
theorem Occurs.step_cases
    (run : Run reliability initial (trace ++ [event]) final)
    (occurs : Occurs initial (trace ++ [event]) id) :
    Occurs initial trace id ∨
    (∃ commit,
      event.commit? = some commit ∧ .exchanged commit.caller ⟨.freshId, id⟩ ∈ trace) ∨
    ∃ key document version,
      event = .rival (.update key document version) ∧ id ∈ document.ids := by
  obtain ⟨earlier, former, holds⟩ := occurs
  rcases List.prefix_concat_iff.mp former with rfl | former
  · cases effect : event.effect? with
    | none =>
        rw [Store.replay_append_of_none _ _ effect] at holds
        exact Or.inl (Occurs.of_holds holds)
    | some call =>
        rw [Store.replay_append_of_some _ _ effect] at holds
        rcases Store.holds_after holds with holds | ⟨key, document, version, rfl, member⟩
        · exact Or.inl (Occurs.of_holds holds)
        · have drafted (caller : Nat)
              (committed : event.commit? = some ⟨caller, key, document, version⟩) :
              Occurs initial trace id ∨ .exchanged caller ⟨.freshId, id⟩ ∈ trace := by
            obtain ⟨context, edit, attempted, -, ⟨rest, rfl⟩, draft⟩ :=
              run.draft_of_commit committed
            obtain ⟨given, read, counter, receipt, past, between, -, rfl, current, -, -, changed,
              named, -⟩ := draft
            rcases (edit.descends changed).mem_or_eq member with old | ⟨creates, rfl⟩
            · have held : Occurs initial past id :=
                Occurs.of_holds ⟨context.key, ⟨read, counter⟩, current, old⟩
              rw [List.append_assoc]
              exact Or.inl (held.append _)
            · have issued := named creates
              rw [List.append_assoc]
              exact Or.inr (List.mem_append_left _ issued)
          rcases effect?_eq_some_iff.mp effect with
            ⟨caller, bound, answered, rfl⟩ | ⟨caller, rfl⟩ | rfl
          · rcases drafted caller rfl with held | issued
            · exact Or.inl held
            · exact Or.inr (Or.inl ⟨_, rfl, issued⟩)
          · rcases drafted caller rfl with held | issued
            · exact Or.inl held
            · exact Or.inr (Or.inl ⟨_, rfl, issued⟩)
          · exact Or.inr (Or.inr ⟨key, document, version, rfl, member⟩)
  · exact Or.inl ⟨earlier, former, holds⟩

namespace Run

/-- An id that was given to a caller is in the store only if the caller has
committed. -/
theorem commit_of_occurs
    (run : Run reliability initial trace final) (fresh : FreshIds initial trace)
    (occurs : Occurs initial trace id)
    (issued : .exchanged caller ⟨.freshId, id⟩ ∈ trace) :
    ∃ commit ∈ commits trace, commit.caller = caller := by
  induction run with
  | start => cases issued
  | @step trace database after event run step inductionHypothesis =>
      rcases List.mem_append.mp issued with issuedBefore | issuedNow
      · have earlier (occurs : Occurs initial trace id) :
            ∃ commit ∈ commits (trace ++ [event]), commit.caller = caller := by
          obtain ⟨commit, member, same⟩ :=
            inductionHypothesis fresh.of_append occurs issuedBefore
          rw [commits_append]
          exact ⟨commit, List.mem_append_left _ member, same⟩
        rcases occurs.step_cases (run.step step) with
          occurs | ⟨commit, committed, issuedToo⟩ | ⟨key, document, version, rfl, member⟩
        · exact earlier occurs
        · refine ⟨commit, ?_, fresh.of_append.caller_unique issuedToo issuedBefore⟩
          rw [commits_append, commits_singleton, committed]
          simp
        · exact earlier (fresh.unguessed trace key document version [] caller id rfl member
            issuedBefore)
      · obtain rfl := List.mem_singleton.mp issuedNow
        rcases occurs.step_cases (run.step step) with
          occurs | ⟨commit, committed, -⟩ | ⟨_, _, _, impossible, _⟩
        · exact absurd occurs (fresh.unused trace caller id [] rfl).1
        · cases committed
        · cases impossible

/-- An id that was given to a caller is not in the store before the caller has
written anything that may be stored. -/
theorem not_holds_of_harmless
    (run : Run reliability initial trace final) (fresh : FreshIds initial trace)
    (issued : .exchanged caller ⟨.freshId, id⟩ ∈ trace)
    (harmless : ∀ exchange ∈ historyOf caller trace, exchange.mayStore = false) :
    ¬ (initial.replay trace).Holds id := by
  intro holds
  obtain ⟨commit, committed, same⟩ := run.commit_of_occurs fresh (Occurs.of_holds holds) issued
  exact run.caller_ne_of_harmless harmless commit committed same

/-- When a caller commits, the id that it was given is not in the store yet. -/
theorem not_holds_of_commit
    {commit : Commit}
    (run : Run reliability initial (trace ++ [event]) final)
    (fresh : FreshIds initial (trace ++ [event])) (committed : event.commit? = some commit)
    (issued : .exchanged commit.caller ⟨.freshId, id⟩ ∈ trace) :
    ¬ (initial.replay trace).Holds id := by
  intro holds
  obtain ⟨database, runBefore⟩ := run.exists_of_append
  obtain ⟨former, inCommits, sameCaller⟩ :=
    runBefore.commit_of_occurs fresh.of_append (Occurs.of_holds holds) issued
  have alone := run.countP_commits_le_one commit.caller
  have counted : 0 < (commits trace).countP (·.caller = commit.caller) :=
    List.countP_pos_iff.mpr ⟨former, inCommits, decide_eq_true sameCaller⟩
  rw [commits_append, commits_singleton, committed, List.countP_append] at alone
  simp only [Option.toList_some, List.countP_singleton, decide_true, ↓reduceIte] at alone
  omega

end Run

end Runs

/-! ## A creation whose answer is lost

The write is not answered in time, takes effect, and is found when the document is read again. -/

namespace LostAnswer

def context : Context :=
  ⟨{}, ⟨"default", "sales"⟩⟩

def edit : Edit :=
  .createFunction { name := "trim", source := "value.trim()" }

def written : PipelineDocument :=
  { transformFunctions := [{ id := "1", name := "trim", source := "value.trim()" }] }

def initial : Store :=
  ⟨[(context.key, .initial)]⟩

def call : StoreCall :=
  .update context.key written (.ofCounter 1)

def final : Store :=
  initial.after call

def cause : Interruption :=
  .timedOut (.ofSeconds 5)

def trace : List Event :=
  [.invoked 0 context (.edit edit),
    .exchanged 0 ⟨.freshId, "1"⟩,
    .exchanged 0 (.load context (.ok ({}, .ofCounter 1))),
    .exchanged 0 (.write context written (.ofCounter 1) (.error (.interrupted cause))),
    .landed 0 call,
    .exchanged 0 (.reread context (.ok (written, .ofCounter 2))),
    .exchanged 0 (.counted (.mutations .transformFunction .create)),
    .returned 0 (.ok (.outcome ⟨"1", []⟩))]

theorem find?_initial : initial.find? context.key = some .initial :=
  rfl

theorem answer_landed : initial.answer call = .ok (.ofCounter 2) :=
  Store.answer_update_eq_ok_iff.mpr ⟨.initial, find?_initial, rfl, rfl⟩

theorem answer_reread : final.answer (.get context.key) = .ok (written, .ofCounter 2) := by
  refine Store.answer_get_eq_ok_iff.mpr ⟨2, ?_, rfl⟩
  have current : Stored.initial.version = .ofCounter 1 := rfl
  rw [final, call, Store.find?_after_update _ _ find?_initial current, if_pos rfl]
  rfl

theorem yields :
    Operation.Yields ((Command.edit edit).operation context)
      [⟨.freshId, "1"⟩,
        .load context (.ok ({}, .ofCounter 1)),
        .write context written (.ofCounter 1) (.error (.interrupted cause)),
        .reread context (.ok (written, .ofCounter 2)),
        .counted (.mutations .transformFunction .create)]
      (.ok (.outcome ⟨"1", []⟩)) :=
  Operation.yields_map_iff.mpr ⟨.ok ⟨"1", []⟩,
    edit.yields_without_notices "1" rfl (.of_creation rfl "1")
      (Attempts.recovered {} (.ofCounter 1) (.ofCounter 2) cause rfl), rfl⟩

theorem run : Run .faulty initial trace { store := final } := by
  have asked : Run .faulty initial (trace.take 1) { store := initial } :=
    Run.start.step (Step.invoked 0 context (.edit edit) (by simp))
  have named : Run .faulty initial (trace.take 2) { store := initial } :=
    asked.then_exchange (by simp [trace]) (by simp [trace]) yields (Answers.named "1")
  have loaded : Run .faulty initial (trace.take 3) { store := initial } :=
    named.then_exchange (by simp [trace]) (by simp [trace]) yields (Answers.performed _ _)
  have lost : Run .faulty initial (trace.take 4) { store := initial, adrift := [(0, call)] } :=
    loaded.then_exchange (by simp [trace]) (by simp [trace]) yields
      (Answers.lost rfl _ _ rfl)
  have landed : Run .faulty initial (trace.take 5) { store := final } :=
    lost.step (Step.landed [] [] rfl rfl (by rw [answer_landed]; rfl))
  have reread : Run .faulty initial (trace.take 6) { store := final } :=
    landed.then_exchange (by simp [trace]) (by simp [trace]) yields
      (Answers.succeeded answer_reread)
  have counted : Run .faulty initial (trace.take 7) { store := final } :=
    reread.then_exchange (by simp [trace]) (by simp [trace]) yields (Answers.counted _)
  exact counted.step (Step.returned (by simp [trace]) (by simp [trace]) yields)

theorem eq_initial_of_find?
    {key : PipelineKey} {stored : Stored} (found : initial.find? key = some stored) :
    stored = .initial :=
  (Store.find?_of_single found).2

theorem freshIds : FreshIds initial trace := by
  have single : FreshIds initial
      (trace.take 1 ++ .exchanged 0 ⟨.freshId, "1"⟩ :: trace.drop 2) := by
    refine FreshIds.of_one ?new ?unnamed ?own
    case new =>
      intro occurs
      obtain ⟨key, stored, found, member⟩ := occurs.holds_of_idle (by simp [trace, Event.effect?])
      obtain rfl := eq_initial_of_find? found
      cases member
    case unnamed => simp [trace, Exchange.load, Exchange.write, Exchange.reread, Exchange.counted]
    case own => simp [trace]
  exact single

end LostAnswer

end PipelineRegistry
