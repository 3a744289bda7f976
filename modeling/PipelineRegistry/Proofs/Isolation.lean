import PipelineRegistry.Proofs.Requests
import PipelineRegistry.Proofs.Schedule

/-!
# Pipelines are isolated

Callers of different pipelines do not notice each other, also when the texts of the two keys are the
same. What is stored under a key is changed by callers of that key alone, every call that names a
pipeline names the one that its request addresses, and a schedule from which all callers of another
pipeline are taken out leads to the same stored document, exchanges and results.
-/

namespace PipelineRegistry

/-! ## Calls that differ in nothing they see -/

namespace Store

variable {left right store : Store} {key : PipelineKey} {call : StoreCall}

theorem find?_after_of_ne (store : Store) (other : key ≠ Simulation.callKey call) :
    (store.after call).find? key = store.find? key := by
  rcases store.find?_after_cases call key with same | ⟨_, _, rfl, -⟩ | ⟨rfl, -⟩ | ⟨rfl, -⟩
  · exact same
  · exact absurd rfl other
  · exact absurd rfl other
  · exact absurd rfl other

/-- A call sees no more of a store than what is stored under its key. -/
theorem answer_congr
    (same : left.find? (Simulation.callKey call) = right.find? (Simulation.callKey call)) :
    left.answer call = right.answer call := by
  cases call with
  | get key =>
      simp only [Simulation.callKey] at same
      simp only [answer, Simulation.perform, get, same]
  | update key document expected =>
      simp only [Simulation.callKey] at same
      cases known : right.find? key with
      | none => simp [answer, Simulation.perform, update, same, known]
      | some stored =>
          by_cases current : stored.version = expected
          · simp [answer, Simulation.perform, update, same, known, current]
          · simp [answer, Simulation.perform, update, same, known, current]
  | create key =>
      simp only [Simulation.callKey] at same
      cases known : right.find? key with
      | none | some stored => simp [answer, Simulation.perform, create, same, known]
  | delete key =>
      simp only [Simulation.callKey] at same
      cases known : right.find? key with
      | none | some stored => simp [answer, Simulation.perform, delete, same, known]

theorem find?_after_congr
    (same : left.find? (Simulation.callKey call) = right.find? (Simulation.callKey call)) :
    (left.after call).find? (Simulation.callKey call) =
      (right.after call).find? (Simulation.callKey call) := by
  cases call with
  | get key => exact same
  | update key document expected =>
      simp only [Simulation.callKey] at same ⊢
      cases known : right.find? key with
      | none => simp [after, Simulation.perform, update, same, known]
      | some stored =>
          by_cases current : stored.version = expected
          · simp [after, Simulation.perform, update, same, known, current, find?_insert]
          · simp [after, Simulation.perform, update, same, known, current]
  | create key =>
      simp only [Simulation.callKey] at same ⊢
      cases known : right.find? key with
      | none | some stored =>
          simp [after, Simulation.perform, create, same, known, find?_insert]
  | delete key =>
      simp only [Simulation.callKey, find?_after_delete, ↓reduceIte]

end Store

namespace Fate

variable {services : Services} {left right : Store} {key : PipelineKey} {request : Request}

theorem find?_answer_of_ne
    {other : PipelineKey} (fate : Fate) (services : Services) (store : Store)
    (concerns : request.Concerns key) (different : other ≠ key) :
    (fate.answer services store request).2.find? other = store.find? other := by
  obtain ⟨newId, cut⟩ := fate
  cases request with
  | store bound call =>
      cases cut with
      | some cause => rfl
      | none => exact store.find?_after_of_ne (concerns.symm ▸ different)
  | service _ _ | pause _ | freshId | count _ => cases cut <;> rfl

theorem answer_congr
    (fate : Fate) (services : Services) (concerns : request.Concerns key)
    (same : left.find? key = right.find? key) :
    (fate.answer services left request).1 = (fate.answer services right request).1 ∧
      (fate.answer services left request).2.find? key =
        (fate.answer services right request).2.find? key := by
  obtain ⟨newId, cut⟩ := fate
  cases request with
  | store bound call =>
      obtain rfl : Simulation.callKey call = key := concerns
      cases cut with
      | some cause => exact ⟨rfl, same⟩
      | none => exact ⟨Store.answer_congr same, Store.find?_after_congr same⟩
  | service _ _ | pause _ | freshId | count _ =>
      cases cut with
      | some cause => exact ⟨rfl, same⟩
      | none => exact ⟨rfl, same⟩

end Fate

namespace Session

variable {session : Session} {left right : Store} {key : PipelineKey}

theorem find?_proceed_of_ne
    {other : PipelineKey} (services : Services) (fate : Fate) (store : Store)
    (asks : session.rest.AsksOnly (Request.Concerns key)) (different : other ≠ key) :
    (session.proceed services fate store).2.find? other = store.find? other := by
  obtain ⟨history, rest⟩ := session
  cases asks with
  | done result => rfl
  | ask here behind => exact fate.find?_answer_of_ne services store here different

theorem proceed_congr
    (services : Services) (fate : Fate) (asks : session.rest.AsksOnly (Request.Concerns key))
    (same : left.find? key = right.find? key) :
    (session.proceed services fate left).1 = (session.proceed services fate right).1 ∧
      (session.proceed services fate left).2.find? key =
        (session.proceed services fate right).2.find? key := by
  obtain ⟨history, rest⟩ := session
  cases asks with
  | done result => exact ⟨rfl, same⟩
  | ask here behind =>
      obtain ⟨answers, stored⟩ := fate.answer_congr services here same
      refine ⟨?_, stored⟩
      simp only [proceed, answers]

end Session

/-! ## Scenes in which every session keeps to its pipeline -/

namespace Scene

variable {services : Services} {initial : Store} {scene left right : Scene} {move : Move}
  {key other : PipelineKey}

/-- Every session has named no pipeline but its own, and never will. -/
def Confined (scene : Scene) : Prop :=
  ∀ client session, scene.sessions client = some session →
    (∀ exchange ∈ session.history, exchange.request.Concerns client.key) ∧
      session.rest.AsksOnly (Request.Concerns client.key)

theorem confined_start (initial : Store) : (start initial).Confined := by
  intro client session known
  cases known

theorem Confined.play (confined : scene.Confined) (services : Services) (move : Move) :
    (scene.play services move).Confined := by
  intro client session known
  by_cases mover : client = move.client
  · subst mover
    cases move with
    | ask client settings command =>
        rw [Move.client, sessions_play_ask] at known
        obtain rfl := Option.some.inj known
        cases asked : scene.sessions client with
        | some session => exact confined client session asked
        | none =>
            have concerns := command.concerns ⟨settings, client.key⟩
            exact ⟨by simp [Session.start], concerns⟩
    | proceed client fate =>
        cases asked : scene.sessions client with
        | none =>
            rw [play_proceed_of_none fate asked] at known
            exact confined client session known
        | some former =>
            rw [Move.client, sessions_play_proceed services fate asked] at known
            obtain rfl := Option.some.inj known
            obtain ⟨history, rest⟩ := former
            obtain ⟨made, asks⟩ := confined client _ asked
            cases asks with
            | done result => exact ⟨made, .done result⟩
            | ask here behind =>
                refine ⟨?_, behind _⟩
                intro exchange member
                rcases List.mem_append.mp member with member | member
                · exact made exchange member
                · rw [List.mem_singleton.mp member]
                  exact here
  · rw [sessions_play_of_ne services scene mover] at known
    exact confined client session known

theorem Confined.playAll (confined : scene.Confined) (services : Services)
    (schedule : List Move) :
    (scene.playAll services schedule).Confined := by
  induction schedule generalizing scene with
  | nil => exact confined
  | cons move rest inductionHypothesis => exact inductionHypothesis (confined.play services move)

/-- A move changes nothing that is stored under another key than its own. -/
theorem find?_play_of_ne
    (confined : scene.Confined) (services : Services) (different : key ≠ move.client.key) :
    (scene.play services move).store.find? key = scene.store.find? key := by
  cases move with
  | ask client settings command => rw [store_play_ask]
  | proceed client fate =>
      cases asked : scene.sessions client with
      | none => rw [play_proceed_of_none fate asked]
      | some session =>
          rw [store_play_proceed fate asked]
          exact session.find?_proceed_of_ne services fate _ (confined client _ asked).2 different

/-! ## Scenes that differ in one pipeline only -/

/-- Two scenes are the same to everyone but the callers of one pipeline. -/
structure AgreeOutside (other : PipelineKey) (left right : Scene) : Prop where
  find?_eq : ∀ key, key ≠ other → left.store.find? key = right.store.find? key
  sessions_eq : ∀ client, client.key ≠ other → left.sessions client = right.sessions client

theorem AgreeOutside.refl (other : PipelineKey) (scene : Scene) :
    AgreeOutside other scene scene :=
  ⟨fun _ _ => rfl, fun _ _ => rfl⟩

/-- Moves of callers of the one pipeline keep up the agreement. -/
theorem AgreeOutside.play_left
    (agree : AgreeOutside other left right) (confined : left.Confined) (services : Services)
    (mover : move.client.key = other) :
    AgreeOutside other (left.play services move) right := by
  subst mover
  refine ⟨?_, ?_⟩
  · intro key different
    rw [find?_play_of_ne confined services different]
    exact agree.find?_eq key different
  · intro client different
    rw [sessions_play_of_ne services left fun same => different (congrArg Client.key same)]
    exact agree.sessions_eq client different

/-- Under other keys, and for other clients, a move does nothing. -/
theorem AgreeOutside.play_of_own
    (agree : AgreeOutside other left right) (leftConfined : left.Confined)
    (rightConfined : right.Confined) (services : Services)
    (own : (left.play services move).store.find? move.client.key =
        (right.play services move).store.find? move.client.key ∧
      (left.play services move).sessions move.client =
        (right.play services move).sessions move.client) :
    AgreeOutside other (left.play services move) (right.play services move) := by
  obtain ⟨sameStored, sameSession⟩ := own
  refine ⟨?_, ?_⟩
  · intro key different
    by_cases same : key = move.client.key
    · rw [same]
      exact sameStored
    · rw [find?_play_of_ne leftConfined services same,
        find?_play_of_ne rightConfined services same]
      exact agree.find?_eq key different
  · intro client different
    by_cases same : client = move.client
    · rw [same]
      exact sameSession
    · rw [sessions_play_of_ne services left same, sessions_play_of_ne services right same]
      exact agree.sessions_eq client different

/-- A move of any other caller has the same effect in both scenes. -/
theorem AgreeOutside.play
    (agree : AgreeOutside other left right) (leftConfined : left.Confined)
    (rightConfined : right.Confined) (services : Services) (mover : move.client.key ≠ other) :
    AgreeOutside other (left.play services move) (right.play services move) := by
  have sameSession := agree.sessions_eq move.client mover
  have sameStored := agree.find?_eq move.client.key mover
  apply agree.play_of_own leftConfined rightConfined services
  cases move with
  | ask client settings command =>
      simp only [Move.client] at sameSession sameStored ⊢
      rw [store_play_ask, store_play_ask, sessions_play_ask, sessions_play_ask, sameSession]
      exact ⟨sameStored, rfl⟩
  | proceed client fate =>
      simp only [Move.client] at sameSession sameStored ⊢
      cases asked : left.sessions client with
      | none =>
          have alsoNone : right.sessions client = none := sameSession.symm.trans asked
          rw [play_proceed_of_none fate asked, play_proceed_of_none fate alsoNone]
          exact ⟨sameStored, sameSession⟩
      | some session =>
          have alsoSome : right.sessions client = some session := sameSession.symm.trans asked
          obtain ⟨sameProgress, sameResult⟩ := session.proceed_congr services fate
            (leftConfined client session asked).2 sameStored
          rw [store_play_proceed fate asked, store_play_proceed fate alsoSome,
            sessions_play_proceed services fate asked,
            sessions_play_proceed services fate alsoSome, sameProgress]
          exact ⟨sameResult, rfl⟩

/-- Callers of the one pipeline may as well not be there. -/
theorem AgreeOutside.playAll_filter
    (agree : AgreeOutside other left right) (leftConfined : left.Confined)
    (rightConfined : right.Confined) (services : Services) (schedule : List Move) :
    AgreeOutside other (left.playAll services schedule)
      (right.playAll services (schedule.filter (·.client.key ≠ other))) := by
  induction schedule generalizing left right with
  | nil => exact agree
  | cons move rest inductionHypothesis =>
      by_cases mover : move.client.key = other
      · rw [List.filter_cons_of_neg (by simp [mover])]
        exact inductionHypothesis (agree.play_left leftConfined services mover)
          (leftConfined.play services move) rightConfined
      · rw [List.filter_cons_of_pos (by simp [mover])]
        exact inductionHypothesis (agree.play leftConfined rightConfined services mover)
          (leftConfined.play services move) (rightConfined.play services move)

end Scene

/-! ## The main statement -/

/-- Of two keys, each move leaves alone what is stored under the key that it
does not address. What callers ask of services names their own key. And without
the callers of one key, everything is the same under the other one: what is
stored, and the exchanges and the result of each caller. -/
theorem pipelines_isolated (services : Services) (initial : Store) (schedule : List Move) :
    (∀ before move behind, schedule = before ++ move :: behind →
      ∀ key, key ≠ move.client.key →
        ((Scene.start initial).playAll services (before ++ [move])).store.find? key =
          ((Scene.start initial).playAll services before).store.find? key) ∧
    (∀ client session,
      ((Scene.start initial).playAll services schedule).sessions client = some session →
        ∀ exchange ∈ session.history, exchange.request.Concerns client.key) ∧
    ∀ key other, key ≠ other →
      ((Scene.start initial).playAll services schedule).store.find? key =
          ((Scene.start initial).playAll services
            (schedule.filter (·.client.key ≠ other))).store.find? key ∧
        ∀ number,
          ((Scene.start initial).playAll services schedule).sessions ⟨key, number⟩ =
            ((Scene.start initial).playAll services
              (schedule.filter (·.client.key ≠ other))).sessions ⟨key, number⟩ := by
  have confined (moves : List Move) := (Scene.confined_start initial).playAll services moves
  refine ⟨?_, ?_, ?_⟩
  · intro before move behind split key different
    rw [Scene.playAll_append]
    exact Scene.find?_play_of_ne (confined before) services different
  · intro client session known
    exact (confined schedule client session known).1
  · intro key other different
    have agree := (Scene.AgreeOutside.refl other (Scene.start initial)).playAll_filter
      (Scene.confined_start initial) (Scene.confined_start initial) services schedule
    exact ⟨agree.find?_eq key different, fun number => agree.sessions_eq _ different⟩

/-- Two pipelines may have one text and be different. -/
example :
    (⟨"a/b", "c"⟩ : PipelineKey).text = (⟨"a", "b/c"⟩ : PipelineKey).text ∧
      (⟨"a/b", "c"⟩ : PipelineKey) ≠ ⟨"a", "b/c"⟩ := by
  decide

end PipelineRegistry
