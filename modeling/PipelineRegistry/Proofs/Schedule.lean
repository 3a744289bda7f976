import Mathlib.Logic.Function.Basic
import PipelineRegistry.Proofs.Serving

/-!
# Schedules

A store in memory, with services whose answers depend on nothing but the arguments of their calls,
leaves three things open: who moves next, which ids are given out, and which calls and waits are cut
off by a deadline or a cancelled request. A schedule settles all of them, so what comes of it is a
function, `Scene.playAll`, and two schedules can be compared. Every run of a store without faults is
played by some schedule.
-/

namespace PipelineRegistry

/-! ## Scenes -/

/-- What services answer, given nothing but a call. -/
abbrev Services : Type :=
  (call : ServiceCall) → Except (CallError ServiceError) call.Answer

/-- Who asks: the pipeline that is addressed, and a number that tells apart the
callers of one pipeline. -/
structure Client where
  key : PipelineKey
  number : Nat
  deriving DecidableEq, Repr

/-- The exchanges that a client has made, and what is left of its program. -/
structure Session where
  history : List Exchange
  rest : Program (Except RegistryError Reply)

/-- A stored state, and how far each client has come. -/
structure Scene where
  store : Store
  sessions : Client → Option Session

/-- What a schedule settles about one request: the id to give out, and whether a
call or a wait is cut off before it has any effect. -/
structure Fate where
  newId : String := ""
  cut : Option Interruption := none
  deriving DecidableEq, Repr

/-- A client asks its one command, or its program proceeds by one request. -/
inductive Move
  | ask (client : Client) (settings : RegistrySettings) (command : Command)
  | proceed (client : Client) (fate : Fate)
  deriving DecidableEq, Repr

def Move.client : Move → Client
  | ask client _ _ => client
  | proceed client _ => client

/-! ## Playing -/

def Fate.answer (fate : Fate) (services : Services) (store : Store) (request : Request) :
    request.Answer × Store :=
  match fate.cut, request with
  | some cause, .store _ _ => (.error (.interrupted cause), store)
  | some cause, .service _ _ => (.error (.interrupted cause), store)
  | some _, .pause _ => (false, store)
  | _, request => Surroundings.answer ⟨fate.newId, services⟩ store request

namespace Session

def start (context : Context) (command : Command) : Session :=
  ⟨[], (command.operation context).run⟩

/-- A program that has come to its result does nothing more. -/
def proceed (session : Session) (services : Services) (fate : Fate) (store : Store) :
    Session × Store :=
  match session.rest with
  | .done _ => (session, store)
  | .ask request next =>
      (⟨session.history ++ [⟨request, (fate.answer services store request).1⟩],
          next (fate.answer services store request).1⟩,
        (fate.answer services store request).2)

end Session

namespace Scene

def start (store : Store) : Scene :=
  ⟨store, fun _ => none⟩

/-- Plays a move. One that is not possible changes nothing: a second command of
a client, or a step of one that has not asked. -/
def play (services : Services) (scene : Scene) : Move → Scene
  | .ask client settings command =>
      match scene.sessions client with
      | some _ => scene
      | none =>
          { scene with
            sessions := Function.update scene.sessions client
              (some (.start ⟨settings, client.key⟩ command)) }
  | .proceed client fate =>
      match scene.sessions client with
      | none => scene
      | some session =>
          ⟨(session.proceed services fate scene.store).2,
            Function.update scene.sessions client
              (some (session.proceed services fate scene.store).1)⟩

def playAll (services : Services) (scene : Scene) (schedule : List Move) : Scene :=
  schedule.foldl (play services) scene

variable {services : Services} {scene : Scene} {client : Client} {session : Session}

theorem playAll_append (services : Services) (scene : Scene) (earlier later : List Move) :
    scene.playAll services (earlier ++ later) =
      (scene.playAll services earlier).playAll services later :=
  List.foldl_append

/-- A move is of one client, and all others stay where they are. -/
theorem sessions_play_of_ne
    (services : Services) (scene : Scene) {move : Move} (other : client ≠ move.client) :
    (scene.play services move).sessions client = scene.sessions client := by
  cases move with
  | ask asking settings command =>
      cases known : scene.sessions asking with
      | some session => simp only [play, known]
      | none =>
          simp only [play, known]
          exact Function.update_of_ne other _ _
  | proceed asking fate =>
      cases known : scene.sessions asking with
      | none => simp only [play, known]
      | some session =>
          simp only [play, known]
          exact Function.update_of_ne other _ _

theorem store_play_ask (settings : RegistrySettings) (command : Command) :
    (scene.play services (.ask client settings command)).store = scene.store := by
  cases known : scene.sessions client with
  | none | some session => simp only [play, known]

theorem sessions_play_ask
    (services : Services) (scene : Scene) (client : Client) (settings : RegistrySettings)
    (command : Command) :
    (scene.play services (.ask client settings command)).sessions client =
      some ((scene.sessions client).getD (.start ⟨settings, client.key⟩ command)) := by
  cases known : scene.sessions client with
  | some session => simp [play, known]
  | none => simp [play, known]

theorem play_proceed_of_none (fate : Fate) (unasked : scene.sessions client = none) :
    scene.play services (.proceed client fate) = scene := by
  simp only [play, unasked]

theorem store_play_proceed (fate : Fate) (known : scene.sessions client = some session) :
    (scene.play services (.proceed client fate)).store =
      (session.proceed services fate scene.store).2 := by
  simp only [play, known]

theorem sessions_play_proceed
    (services : Services) (fate : Fate) (known : scene.sessions client = some session) :
    (scene.play services (.proceed client fate)).sessions client =
      some (session.proceed services fate scene.store).1 := by
  simp [play, known]

end Scene

/-! ## Runs are played -/

theorem Program.Leads.unique
    {α : Type} {program first second : Program α} {history : List Exchange}
    (left : Leads program history first) (right : Leads program history second) :
    first = second := by
  induction left with
  | refl program =>
      cases right
      rfl
  | ask answer _ inductionHypothesis =>
      cases right with
      | ask _ leads => exact inductionHypothesis leads

/-- A scene stands where the events of a run have led to. -/
structure Scene.Mirrors (scene : Scene) (trace : List Event) (store : Store) : Prop where
  store_eq : scene.store = store
  asked : ∀ client session, scene.sessions client = some session →
    ∃ context command,
      client.key = context.key ∧ .invoked client.number context command ∈ trace
  session : ∀ caller context command, .invoked caller context command ∈ trace →
    ∃ session, scene.sessions ⟨context.key, caller⟩ = some session ∧
      session.history = historyOf caller trace ∧
      Program.Leads (command.operation context).run session.history session.rest

section Mirrors

variable {services : Services} {scene : Scene} {trace : List Event} {store after : Store}
  {caller : Nat} {context : Context} {command : Command} {exchange : Exchange}

theorem Fate.exists_of_answers
    {database later : Database} (services : Services)
    (answers : Answers .faultless caller database exchange later)
    (served : ∀ bound call answer,
      exchange = ⟨.service bound call, answer⟩ → answer = services call) :
    ∃ fate : Fate,
      fate.answer services database.store exchange.request = (exchange.answer, later.store) := by
  cases answers with
  | performed bound call => exact ⟨{}, rfl⟩
  | refused faulty => cases faulty
  | lost faulty => cases faulty
  | served bound call answer =>
      obtain rfl := served bound call answer rfl
      exact ⟨{}, rfl⟩
  | paused duration heeded =>
      obtain rfl := heeded rfl
      exact ⟨{}, rfl⟩
  | named id => exact ⟨{ newId := id }, rfl⟩
  | counted counter => exact ⟨{}, rfl⟩

namespace Scene.Mirrors

theorem ask
    (mirrors : scene.Mirrors trace store)
    (new : ∀ context command, .invoked caller context command ∉ trace)
    (unheard : historyOf caller trace = []) :
    (scene.play services (.ask ⟨context.key, caller⟩ context.settings command)).Mirrors
      (trace ++ [.invoked caller context command]) store := by
  have free : scene.sessions ⟨context.key, caller⟩ = none := by
    cases known : scene.sessions ⟨context.key, caller⟩ with
    | none => rfl
    | some session =>
        obtain ⟨_, _, -, member⟩ := mirrors.asked _ session known
        exact absurd member (new _ _)
  refine ⟨?_, ?_, ?_⟩
  · rw [store_play_ask]
    exact mirrors.store_eq
  · intro client session known
    by_cases same : client = ⟨context.key, caller⟩
    · subst same
      exact ⟨context, command, rfl, by simp⟩
    · rw [sessions_play_of_ne services scene same] at known
      obtain ⟨other, asked, sameKey, member⟩ := mirrors.asked client session known
      exact ⟨other, asked, sameKey, List.mem_append_left _ member⟩
  · intro other otherContext otherCommand member
    rcases List.mem_append.mp member with earlier | latest
    · have different : other ≠ caller := by
        rintro rfl
        exact new _ _ earlier
      have apart : (⟨otherContext.key, other⟩ : Client) ≠ ⟨context.key, caller⟩ := by
        simp [different]
      obtain ⟨session, known, made, leads⟩ := mirrors.session _ _ _ earlier
      refine ⟨session, ?_, ?_, leads⟩
      · rw [sessions_play_of_ne services scene apart]
        exact known
      · rw [made, historyOf_append]
        exact (List.append_nil _).symm
    · cases List.mem_singleton.mp latest
      have started := sessions_play_ask services scene ⟨context.key, caller⟩ context.settings
        command
      rw [free] at started
      refine ⟨_, started, ?_, Program.Leads.refl _⟩
      rw [historyOf_append, unheard]
      rfl

theorem proceed
    {next : exchange.request.Answer → Program (Except RegistryError Reply)} {fate : Fate}
    (mirrors : scene.Mirrors trace store)
    (member : .invoked caller context command ∈ trace)
    (unique : ∀ otherContext otherCommand,
      .invoked caller otherContext otherCommand ∈ trace →
        otherContext = context ∧ otherCommand = command)
    (leads : Program.Leads (command.operation context).run (historyOf caller trace)
      (.ask exchange.request next))
    (answered : fate.answer services store exchange.request = (exchange.answer, after)) :
    (scene.play services (.proceed ⟨context.key, caller⟩ fate)).Mirrors
      (trace ++ [.exchanged caller exchange]) after := by
  obtain ⟨⟨history, rest⟩, known, made, led⟩ := mirrors.session _ _ _ member
  simp only at made led
  subst made
  obtain rfl := led.unique leads
  obtain rfl := mirrors.store_eq
  have proceeded :
      (⟨historyOf caller trace, .ask exchange.request next⟩ : Session).proceed services fate
        scene.store = (⟨historyOf caller trace ++ [exchange], next exchange.answer⟩, after) := by
    simp only [Session.proceed, answered]
  refine ⟨?_, ?_, ?_⟩
  · rw [store_play_proceed fate known, proceeded]
  · intro client session found
    by_cases same : client = ⟨context.key, caller⟩
    · subst same
      exact ⟨context, command, rfl, List.mem_append_left _ member⟩
    · rw [sessions_play_of_ne services scene same] at found
      obtain ⟨other, asked, sameKey, earlier⟩ := mirrors.asked client session found
      exact ⟨other, asked, sameKey, List.mem_append_left _ earlier⟩
  · intro other otherContext otherCommand invoked
    have earlier : .invoked other otherContext otherCommand ∈ trace := by simpa using invoked
    by_cases same : other = caller
    · subst same
      obtain ⟨rfl, rfl⟩ := unique _ _ earlier
      have moved := sessions_play_proceed services fate known
      rw [proceeded] at moved
      refine ⟨_, moved, ?_, leads.extend exchange.answer⟩
      rw [historyOf_append, historyOf_exchanged]
    · have apart : (⟨otherContext.key, other⟩ : Client) ≠ ⟨context.key, caller⟩ := by
        simp [same]
      obtain ⟨session, found, history, reached⟩ := mirrors.session _ _ _ earlier
      refine ⟨session, ?_, ?_, reached⟩
      · rw [sessions_play_of_ne services scene apart]
        exact found
      · rw [history, historyOf_append, historyOf_exchanged_of_ne (Ne.symm same), List.append_nil]

/-- Events that are no exchange and no new command change nothing. -/
theorem idle
    {event : Event} (mirrors : scene.Mirrors trace store)
    (unheard : ∀ caller, event.exchange? caller = none)
    (old : ∀ caller context command, event ≠ .invoked caller context command) :
    scene.Mirrors (trace ++ [event]) store := by
  refine ⟨mirrors.store_eq, ?_, ?_⟩
  · intro client session known
    obtain ⟨other, asked, sameKey, member⟩ := mirrors.asked client session known
    exact ⟨other, asked, sameKey, List.mem_append_left _ member⟩
  · intro caller context command member
    have earlier : .invoked caller context command ∈ trace := by
      rcases List.mem_append.mp member with member | member
      · exact member
      · exact absurd (List.mem_singleton.mp member).symm (old _ _ _)
    obtain ⟨session, known, made, leads⟩ := mirrors.session _ _ _ earlier
    refine ⟨session, known, ?_, leads⟩
    have nothing : historyOf caller [event] = [] := by simp [historyOf, unheard caller]
    rw [made, historyOf_append, nothing, List.append_nil]

end Scene.Mirrors

end Mirrors

namespace Run

variable {services : Services} {initial : Store} {trace : List Event} {final : Database}

theorem exists_mirror
    (run : Run .faultless initial trace final)
    (served : ∀ caller bound call answer,
      .exchanged caller ⟨.service bound call, answer⟩ ∈ trace → answer = services call) :
    ∃ schedule,
      ((Scene.start initial).playAll services schedule).Mirrors trace final.store := by
  induction run with
  | start => exact ⟨[], rfl, by simp [Scene.playAll, Scene.start], by simp⟩
  | @step trace database after event run step inductionHypothesis =>
      obtain ⟨schedule, mirrors⟩ := inductionHypothesis fun caller bound call answer member =>
        served caller bound call answer (List.mem_append_left _ member)
      have further (move : Move) :
          (Scene.start initial).playAll services (schedule ++ [move]) =
            ((Scene.start initial).playAll services schedule).play services move :=
        Scene.playAll_append services _ schedule [move]
      cases step with
      | invoked caller context command new =>
          refine ⟨schedule ++ [.ask ⟨context.key, caller⟩ context.settings command], ?_⟩
          rw [further]
          exact mirrors.ask new (run.historyOf_eq_nil new)
      | @exchanged caller context command exchange next _ asked running leads answers =>
          obtain ⟨fate, answered⟩ := Fate.exists_of_answers services answers
            fun bound call answer same => served caller bound call answer (by simp [same])
          refine ⟨schedule ++ [.proceed ⟨context.key, caller⟩ fate], ?_⟩
          rw [further]
          exact mirrors.proceed asked (fun _ _ other => run.asked_unique other asked) leads answered
      | returned asked running yields =>
          exact ⟨schedule, mirrors.idle (fun _ => rfl) (by simp)⟩
      | landed front back faulty => cases faulty
      | rival faulty call => cases faulty

/-- Every run of a store without faults, with services that answer by the
arguments of their calls, is played by a schedule. -/
theorem exists_schedule
    (run : Run .faultless initial trace final)
    (served : ∀ caller bound call answer,
      .exchanged caller ⟨.service bound call, answer⟩ ∈ trace → answer = services call) :
    ∃ schedule,
      ((Scene.start initial).playAll services schedule).store = final.store ∧
      ∀ caller context command, .invoked caller context command ∈ trace →
        ∃ session,
          ((Scene.start initial).playAll services schedule).sessions ⟨context.key, caller⟩ =
            some session ∧
          session.history = historyOf caller trace ∧
          ∀ result, .returned caller result ∈ trace → session.rest = .done result := by
  obtain ⟨schedule, mirrors⟩ := run.exists_mirror served
  refine ⟨schedule, mirrors.store_eq, ?_⟩
  intro caller context command asked
  obtain ⟨session, known, made, leads⟩ := mirrors.session _ _ _ asked
  refine ⟨session, known, made, fun result returned => ?_⟩
  have yields := run.yields asked returned
  rw [made] at leads
  exact leads.unique yields

end Run

end PipelineRegistry
