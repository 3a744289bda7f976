import PipelineRegistry.Proofs.Chronicle

/-!
# Linearizability

When a store is faultless and a pipeline is not deleted, the edits of the pipeline that take effect
stand in one order, and each is applied to the whole document that the edits before it have left.
Every edit has its place in the course of its own call, and every reading shows the document and
the version of some place in the order that was current in the course of its call.
-/

namespace PipelineRegistry

/-! ## Orders of edits -/

/-- An order of edits that accounts for all that callers have been told about a
pipeline. -/
structure Linearizes (key : PipelineKey) (initial : Store) (start : Stored)
    (trace : List Event) (order : List Turn) : Prop where
  asked : ∀ turn ∈ order,
    .invoked turn.caller turn.context (.edit turn.edit) ∈ trace ∧ turn.context.key = key ∧
      (turn.edit.isCreation = true → .exchanged turn.caller ⟨.freshId, turn.newId⟩ ∈ trace)
  once : (order.map Turn.caller).Nodup
  folded : Reflects key start order (initial.replay trace)
  placed : ∀ earlier turn later, order = earlier ++ turn :: later →
    ∃ before write after,
      trace = before ++ .exchanged turn.caller write :: after ∧
      During turn.caller turn.context (.edit turn.edit) before ∧
      Reflects key start earlier (initial.replay before) ∧
      Reflects key start (earlier ++ [turn])
        (initial.replay (before ++ [.exchanged turn.caller write]))
  accepted : ∀ caller context edit reply,
    .invoked caller context (.edit edit) ∈ trace → context.key = key →
    .returned caller (.ok reply) ∈ trace → caller ∈ order.map Turn.caller
  failed : ∀ caller error,
    .returned caller (.error error) ∈ trace → caller ∉ order.map Turn.caller
  shown : ∀ caller context reading result,
    .invoked caller context (.read reading) ∈ trace → context.key = key →
    .returned caller result ∈ trace →
    ∃ before after earlier later document,
      trace = before ++ after ∧ During caller context (.read reading) before ∧
      order = earlier ++ later ∧ fold start.document earlier = .ok document ∧
      (initial.replay before).find? key = some ⟨document, start.counter + earlier.length⟩ ∧
      reading.Shows context document (.ofCounter (start.counter + earlier.length)) result

section Linearizability

variable {initial : Store} {final : Database} {trace before after : List Event}
  {event : Event} {key : PipelineKey} {start : Stored} {order : List Turn} {caller : Nat}

/-! ## Faultless stores -/

def Kept (key : PipelineKey) (trace : List Event) : Prop :=
  ∀ caller bound, .exchanged caller ⟨.store bound (.delete key), .ok ()⟩ ∉ trace

namespace Run

theorem undisturbed_of_kept
    (run : Run .faultless initial trace final) (kept : Kept key trace) :
    Undisturbed key trace where
  kept := by
    intro event member deleted
    obtain ⟨before, after, rfl⟩ := List.append_of_mem member
    obtain ⟨_, _, -, step⟩ := run.split
    rcases effect?_eq_some_iff.mp deleted with ⟨caller, bound, answered, rfl⟩ | ⟨caller, rfl⟩ | rfl
    · exact kept caller bound member
    · cases step with
      | landed front back faulty adrift succeeds => cases faulty
    · cases step with
      | rival faulty call => cases faulty
  own := by
    intro document version member
    obtain ⟨before, after, rfl⟩ := List.append_of_mem member
    obtain ⟨_, _, -, step⟩ := run.split
    cases step with
    | rival faulty call => cases faulty

/-- The commit of a faultless store is told to its caller at once. -/
theorem exchanged_of_commit
    (run : Run .faultless initial (before ++ event :: after) final)
    {commit : Commit} (committed : event.commit? = some commit) :
    ∃ bound token, event = .exchanged commit.caller ⟨.store bound commit.call, .ok token⟩ := by
  rcases commit?_eq_some_iff.mp committed with told | rfl
  · exact told
  · obtain ⟨_, _, -, step⟩ := run.split
    cases step with
    | landed front back faulty adrift succeeds => cases faulty

end Run

/-! ## The order of a run -/

/-- What is known of the order at every time of a run. -/
structure Orders (key : PipelineKey) (initial : Store) (start : Stored) (trace : List Event)
    (order : List Turn) : Prop where
  asked : ∀ turn ∈ order,
    .invoked turn.caller turn.context (.edit turn.edit) ∈ trace ∧ turn.context.key = key ∧
      (turn.edit.isCreation = true → .exchanged turn.caller ⟨.freshId, turn.newId⟩ ∈ trace)
  callers : order.map Turn.caller =
    ((commits trace).filter (·.key = key)).map Commit.caller
  folded : Reflects key start order (initial.replay trace)
  placed : ∀ earlier turn later, order = earlier ++ turn :: later →
    ∃ before write after,
      trace = before ++ .exchanged turn.caller write :: after ∧
      During turn.caller turn.context (.edit turn.edit) before ∧
      Reflects key start earlier (initial.replay before) ∧
      Reflects key start (earlier ++ [turn])
        (initial.replay (before ++ [.exchanged turn.caller write]))
  tracked : ∀ before after, trace = before ++ after →
    ∃ earlier later, order = earlier ++ later ∧ Reflects key start earlier (initial.replay before)

namespace Orders

theorem start_nil (known : initial.find? key = some start) :
    Orders key initial start [] [] where
  asked := by simp
  callers := rfl
  folded := ⟨start.document, rfl, by simpa using known⟩
  placed := by
    intro earlier turn later impossible
    simp at impossible
  tracked := by
    intro before after split
    obtain ⟨rfl, rfl⟩ := List.append_eq_nil_iff.mp split.symm
    exact ⟨[], [], rfl, start.document, rfl, by simpa using known⟩

theorem asked_extend
    (orders : Orders key initial start trace order) (event : Event)
    {turn : Turn} (member : turn ∈ order) :
    .invoked turn.caller turn.context (.edit turn.edit) ∈ trace ++ [event] ∧
      turn.context.key = key ∧
      (turn.edit.isCreation = true →
        .exchanged turn.caller ⟨.freshId, turn.newId⟩ ∈ trace ++ [event]) := by
  obtain ⟨invoked, addressed, named⟩ := orders.asked turn member
  exact ⟨List.mem_append_left _ invoked, addressed,
    fun creates => List.mem_append_left _ (named creates)⟩

theorem placed_extend
    (orders : Orders key initial start trace order) (event : Event)
    {earlier later : List Turn} {turn : Turn} (split : order = earlier ++ turn :: later) :
    ∃ before write after,
      trace ++ [event] = before ++ .exchanged turn.caller write :: after ∧
      During turn.caller turn.context (.edit turn.edit) before ∧
      Reflects key start earlier (initial.replay before) ∧
      Reflects key start (earlier ++ [turn])
        (initial.replay (before ++ [.exchanged turn.caller write])) := by
  obtain ⟨before, write, after, rfl, found⟩ := orders.placed earlier turn later split
  exact ⟨before, write, after ++ [event], by simp, found⟩

/-- An event that commits nothing to the pipeline leaves the order as it is. -/
theorem idle
    (orders : Orders key initial start trace order)
    (run : Run .faultless initial (trace ++ [event]) final)
    (kept : Kept key (trace ++ [event]))
    (uncommitted : ∀ commit, event.commit? = some commit → commit.key ≠ key) :
    Orders key initial start (trace ++ [event]) order := by
  obtain ⟨document, folded, known⟩ := orders.folded
  have reflects : Reflects key start order (initial.replay (trace ++ [event])) :=
    ⟨document, folded, (run.undisturbed_of_kept kept).find?_replay known uncommitted⟩
  have nothing : (commits [event]).filter (·.key = key) = [] := by
    rw [commits_singleton, List.filter_eq_nil_iff]
    intro commit member
    simpa using uncommitted commit (Option.mem_toList.mp member)
  exact {
    asked := fun turn member => orders.asked_extend event member
    callers := by
      rw [commits_append, List.filter_append, nothing, List.append_nil]
      exact orders.callers
    folded := reflects
    placed := fun earlier turn later split => orders.placed_extend event split
    tracked := by
      have tracked : Tracked key initial start trace order := orders.tracked
      rw [← order.append_nil] at reflects
      have extended := tracked.extend reflects
      rw [List.append_nil] at extended
      exact extended }

/-- A commit to the pipeline is the next turn, which its caller has. -/
theorem commit
    (orders : Orders key initial start trace order)
    (run : Run .faultless initial (trace ++ [event]) final)
    {commit : Commit} (committed : event.commit? = some commit) (addressed : commit.key = key) :
    ∃ turn, Orders key initial start (trace ++ [event]) (order ++ [turn]) := by
  obtain ⟨document, context, edit, id, receipt, folded, known, sameKey, asked, named, changed⟩ :=
    run.drafted_from_last orders.folded orders.tracked committed addressed
  obtain ⟨stored, present, -, became⟩ := run.find?_of_commit committed
  rw [addressed] at present became
  rw [known] at present
  cases present
  obtain ⟨bound, token, rfl⟩ := run.exchanged_of_commit committed
  let turn : Turn := ⟨commit.caller, context, edit, id⟩
  have applied : turn.apply document = .ok commit.document := by
    unfold Turn.apply
    rw [changed]
    rfl
  have reflects :
      Reflects key start (order ++ [turn])
        (initial.replay
          (trace ++ [.exchanged commit.caller ⟨.store bound commit.call, .ok token⟩])) := by
    refine ⟨commit.document, fold_concat_eq_ok_iff.mpr ⟨document, folded, applied⟩, ?_⟩
    rw [became]
    simp only [List.length_append, List.length_singleton, Int.natCast_add, Option.some.injEq,
      Stored.mk.injEq, true_and]
    omega
  have during : During commit.caller context (.edit edit) trace := by
    obtain ⟨_, _, -, step⟩ := run.split
    cases step with
    | exchanged _ running _ _ => exact ⟨asked, running⟩
  refine ⟨turn, ?_, ?_, reflects, ?_, Tracked.extend orders.tracked reflects⟩
  · intro tested member
    rcases List.mem_append.mp member with member | member
    · exact orders.asked_extend _ member
    · obtain rfl := List.mem_singleton.mp member
      refine ⟨List.mem_append_left _ asked, sameKey, ?_⟩
      intro creates
      exact List.mem_append_left _ (named creates)
  · rw [commits_append, commits_singleton, committed, List.filter_append, List.map_append,
      List.map_append, orders.callers]
    simp [turn, addressed]
  · intro first tested last place
    rcases append_singleton_cases place with ⟨-, impossible⟩ | ⟨between, same, tail⟩
    · cases impossible
    · rcases cons_eq_append_cons tail with ⟨rfl, rfl⟩ | ⟨rest, rfl, -⟩
      · rw [List.append_nil] at same
        subst same
        exact ⟨trace, _, [], rfl, during, ⟨document, folded, known⟩, reflects⟩
      · exact orders.placed_extend _ same

theorem exists_of_run
    (run : Run .faultless initial trace final)
    (known : initial.find? key = some start) (kept : Kept key trace) :
    ∃ order, Orders key initial start trace order := by
  induction run with
  | start => exact ⟨[], start_nil known⟩
  | @step trace database after event run step inductionHypothesis =>
      obtain ⟨order, orders⟩ := inductionHypothesis fun caller bound member =>
        kept caller bound (List.mem_append_left _ member)
      have whole := Run.step run step
      by_cases commits : ∃ commit, event.commit? = some commit ∧ commit.key = key
      · obtain ⟨commit, committed, addressed⟩ := commits
        obtain ⟨turn, extended⟩ := orders.commit whole committed addressed
        exact ⟨order ++ [turn], extended⟩
      · refine ⟨order, orders.idle whole kept ?_⟩
        intro commit committed addressed
        exact commits ⟨commit, committed, addressed⟩

/-- A caller has a turn if and only if it has committed to the pipeline. -/
theorem mem_callers_iff (orders : Orders key initial start trace order) :
    caller ∈ order.map Turn.caller ↔
      ∃ commit ∈ commits trace, commit.key = key ∧ commit.caller = caller := by
  rw [orders.callers, List.mem_map]
  constructor
  · rintro ⟨commit, member, same⟩
    rw [List.mem_filter] at member
    exact ⟨commit, member.1, by simpa using member.2, same⟩
  · rintro ⟨commit, member, addressed, same⟩
    exact ⟨commit, List.mem_filter.mpr ⟨member, by simpa using addressed⟩, same⟩

end Orders

/-! ## What callers are told -/

namespace Run

theorem answer_of_exchanged
    {bound : Bound} {call : StoreCall} {answer : Except (CallError StoreError) call.Answer}
    (run : Run .faultless initial
      (before ++ .exchanged caller ⟨.store bound call, answer⟩ :: after) final) :
    answer = (initial.replay before).answer call := by
  obtain ⟨database, latest, runBefore, step⟩ := run.split
  cases step with
  | exchanged asked running leads answers =>
      rw [← runBefore.store_eq]
      rcases answers.store_cases with ⟨same, -⟩ | ⟨_, _, impossible, _⟩
      · exact same
      · cases impossible

/-- A caller that is told of success without a doubt has been told that its write was stored. -/
theorem write_of_ok
    {reliability : Reliability} {context : Context} {edit : Edit} {reply : Reply}
    (run : Run reliability initial trace final)
    (asked : .invoked caller context (.edit edit) ∈ trace)
    (returned : .returned caller (.ok reply) ∈ trace)
    (told : ∀ exchange ∈ historyOf caller trace,
      exchange.mayStore = true → exchange.isStored = true) :
    ∃ before written version token behind,
      trace =
        before ++ .exchanged caller (.write context written version (.ok token)) :: behind := by
  obtain ⟨result, edited, same⟩ := Operation.yields_map_iff.mp (run.yields asked returned)
  cases result with
  | error error => cases same
  | ok outcome =>
      obtain ⟨earlier, version, written, answer, later, split, ⟨token, rfl⟩ | lost⟩ :=
        Edit.write_of_ok edited
      · obtain ⟨before, behind, rfl, -, -⟩ := historyOf_split split
        exact ⟨before, written, version, token, behind, rfl⟩
      · obtain ⟨cause, _, _, rfl, -⟩ := lost
        have stored := told (.write context written version (.error (.interrupted cause)))
          (by rw [split]; simp) rfl
        cases stored

/-- A faultless store tells a caller whether its write was stored. -/
theorem isStored_of_mayStore
    (run : Run .faultless initial trace final) (caller : Nat) :
    ∀ exchange ∈ historyOf caller trace,
      exchange.mayStore = true → exchange.isStored = true := by
  intro exchange member stores
  obtain ⟨bound, key, document, version, answer, rfl⟩ := mayStore_cases stores
  obtain ⟨before, behind, rfl⟩ := List.append_of_mem (mem_historyOf_iff.mp member)
  cases answer with
  | ok token => rfl
  | error failure =>
      have refusal := Store.isRefusal_of_answer_error run.answer_of_exchanged.symm
      simp [Exchange.mayStore, refusal] at stores

/-- A caller that is told of success has committed to the pipeline it addressed. -/
theorem commit_of_ok
    {context : Context} {edit : Edit} {reply : Reply}
    (run : Run .faultless initial trace final)
    (asked : .invoked caller context (.edit edit) ∈ trace)
    (returned : .returned caller (.ok reply) ∈ trace) :
    ∃ commit ∈ commits trace, commit.key = context.key ∧ commit.caller = caller := by
  obtain ⟨before, written, version, token, behind, rfl⟩ :=
    run.write_of_ok asked returned (run.isStored_of_mayStore caller)
  exact ⟨_, commit_of_stored (List.mem_append_right before List.mem_cons_self), rfl, rfl⟩

/-- A caller that is told of a failure has committed nothing. -/
theorem caller_ne_of_error
    {error : RegistryError}
    (run : Run .faultless initial trace final)
    (returned : .returned caller (.error error) ∈ trace)
    {commit : Commit} (committed : commit ∈ commits trace) :
    commit.caller ≠ caller := by
  rintro rfl
  obtain ⟨before, event, after, rfl, found⟩ := mem_commits_iff.mp committed
  obtain ⟨bound, token, rfl⟩ := run.exchanged_of_commit found
  obtain ⟨context, edit, -, draft⟩ := run.draft
  obtain ⟨result, edited, same⟩ := Operation.yields_map_iff.mp
    (run.yields (List.mem_append_left _ draft.asked_before) returned)
  cases result with
  | ok outcome => cases same
  | error failure =>
      have unstored := (Edit.refused_of_error edited ⟨.store bound commit.call, .ok token⟩
        (mem_historyOf_iff.mpr (by simp))).1
      cases unstored

end Run

/-- The edits of a pipeline in a faultless store are linearizable. -/
theorem linearizable
    (run : Run .faultless initial trace final)
    (known : initial.find? key = some start) (kept : Kept key trace) :
    ∃ order, Linearizes key initial start trace order := by
  obtain ⟨order, orders⟩ := Orders.exists_of_run run known kept
  refine ⟨order, orders.asked, ?once, orders.folded, orders.placed, ?accepted, ?failed, ?shown⟩
  case once =>
    rw [orders.callers, List.nodup_iff_count]
    intro caller
    rw [List.count, List.countP_map, List.countP_filter]
    refine Nat.le_trans (List.countP_mono_left ?_) (run.countP_commits_le_one caller)
    intro commit _ chosen
    simp only [Function.comp_apply, Bool.and_eq_true, beq_iff_eq] at chosen
    simpa using chosen.1
  case accepted =>
    intro caller context edit reply asked addressed returned
    rw [orders.mem_callers_iff]
    obtain ⟨commit, committed, sameKey, sameCaller⟩ := run.commit_of_ok asked returned
    exact ⟨commit, committed, sameKey.trans addressed, sameCaller⟩
  case failed =>
    intro caller error returned
    rw [orders.mem_callers_iff]
    rintro ⟨commit, committed, -, sameCaller⟩
    exact run.caller_ne_of_error returned committed sameCaller
  case shown =>
    intro caller context reading result asked addressed returned
    rcases Reading.yields_operation (run.yields asked returned) with
      ⟨failure, split, -⟩ | ⟨document, version, rest, split, -, shows⟩
    · obtain ⟨before, after, rfl, -, -⟩ := historyOf_split_cons split
      obtain ⟨earlier, later, -, current, -, found⟩ := orders.tracked before _ rfl
      have answered := Store.answer_get_eq_ok_iff.mpr ⟨_, addressed.symm ▸ found, rfl⟩
      rw [← run.answer_of_exchanged] at answered
      cases answered
    · obtain ⟨before, after, rfl, -, -⟩ := historyOf_split_cons split
      obtain ⟨earlier, later, same, current, folded, found⟩ := orders.tracked before _ rfl
      obtain ⟨counter, shown, rfl⟩ := run.current_of_get
      rw [addressed, found] at shown
      cases shown
      exact ⟨before, _, earlier, later, document, rfl, run.during_of_exchanged asked, same,
        folded, found, shows⟩

end Linearizability

/-! ## Two callers that meet

Both callers read the same document. The second one is told of a conflict, reads what the first one
has left, and deletes its function from that. -/

namespace Race

def context : Context :=
  ⟨{}, ⟨"default", "sales"⟩⟩

def trim : TransformFunctionRecord :=
  { id := "1", name := "trim" }

def upper : TransformFunctionRecord :=
  { id := "2", name := "upper" }

def start : Stored :=
  ⟨{ transformFunctions := [trim, upper] }, 1⟩

def initial : Store :=
  ⟨[(context.key, start)]⟩

def middle : Store :=
  initial.after (.update context.key { transformFunctions := [upper] } (.ofCounter 1))

def final : Store :=
  middle.after (.update context.key {} (.ofCounter 2))

def first : Edit :=
  .deleteFunction "1"

def second : Edit :=
  .deleteFunction "2"

def counted : Exchange :=
  .counted (.mutations .transformFunction .delete)

def failed : List Exchange :=
  [.load context (.ok (start.document, .ofCounter 1)),
    .write context { transformFunctions := [trim] } (.ofCounter 1)
      (.error (.failed (.conflict context.key (.ofCounter 1)))),
    .counted .storeConflicts,
    .pause context 1 true]

def trace : List Event :=
  [.invoked 0 context (.edit first),
    .invoked 1 context (.edit second),
    .exchanged 0 (.load context (.ok (start.document, .ofCounter 1))),
    .exchanged 1 (.load context (.ok (start.document, .ofCounter 1))),
    .exchanged 0 (.write context { transformFunctions := [upper] } (.ofCounter 1)
      (.ok (.ofCounter 2))),
    .exchanged 1 (.write context { transformFunctions := [trim] } (.ofCounter 1)
      (.error (.failed (.conflict context.key (.ofCounter 1))))),
    .exchanged 0 counted,
    .returned 0 (.ok (.outcome ⟨"1", []⟩)),
    .exchanged 1 (.counted .storeConflicts),
    .exchanged 1 (.pause context 1 true),
    .exchanged 1 (.load context (.ok ({ transformFunctions := [upper] }, .ofCounter 2))),
    .exchanged 1 (.write context {} (.ofCounter 2) (.ok (.ofCounter 3))),
    .exchanged 1 counted,
    .returned 1 (.ok (.outcome ⟨"2", []⟩))]

theorem find?_initial : initial.find? context.key = some start :=
  rfl

theorem find?_middle :
    middle.find? context.key = some ⟨{ transformFunctions := [upper] }, 2⟩ := by
  have current : start.version = .ofCounter 1 := rfl
  rw [middle, Store.find?_after_update _ _ find?_initial current, if_pos rfl]
  rfl

theorem answer_first :
    initial.answer (.update context.key { transformFunctions := [upper] } (.ofCounter 1)) =
      .ok (.ofCounter 2) :=
  Store.answer_update_eq_ok_iff.mpr ⟨start, find?_initial, rfl, rfl⟩

theorem answer_stale :
    middle.answer (.update context.key { transformFunctions := [trim] } (.ofCounter 1)) =
      .error (.failed (.conflict context.key (.ofCounter 1))) := by
  apply Store.answer_update_of_stale find?_middle
  intro same
  have impossible := Version.ofCounter_inj.mp same
  contradiction

theorem answer_reload :
    middle.answer (.get context.key) =
      .ok ({ transformFunctions := [upper] }, .ofCounter 2) :=
  Store.answer_get_eq_ok_iff.mpr ⟨2, find?_middle, rfl⟩

theorem answer_second :
    middle.answer (.update context.key {} (.ofCounter 2)) = .ok (.ofCounter 3) :=
  Store.answer_update_eq_ok_iff.mpr ⟨_, find?_middle, rfl, rfl⟩

theorem yields_first :
    Operation.Yields ((Command.edit first).operation context)
      [.load context (.ok (start.document, .ofCounter 1)),
        .write context { transformFunctions := [upper] } (.ofCounter 1) (.ok (.ofCounter 2)),
        counted]
      (.ok (.outcome ⟨"1", []⟩)) :=
  Operation.yields_map_iff.mpr ⟨.ok ⟨"1", []⟩,
    first.yields_without_notices "1" rfl (.of_not_creation rfl)
      (Attempts.stored start.document (.ofCounter 1) (.ofCounter 2) rfl), rfl⟩

theorem attempts_second :
    Attempts context second.mutation (second.change context "") 1
      (context.settings.retryPolicy.maxAttempts.toNat - 1)
      (failed ++
        [.load context (.ok ({ transformFunctions := [upper] }, .ofCounter 2)),
          .write context {} (.ofCounter 2) (.ok (.ofCounter 3)),
          counted])
      (.ok ⟨"2", []⟩) :=
  Attempts.again start.document (.ofCounter 1) context.key (.ofCounter 1) rfl
    (Attempts.stored { transformFunctions := [upper] } (.ofCounter 2) (.ofCounter 3) rfl)

theorem yields_second :
    Operation.Yields ((Command.edit second).operation context)
      (failed ++
        [.load context (.ok ({ transformFunctions := [upper] }, .ofCounter 2)),
          .write context {} (.ofCounter 2) (.ok (.ofCounter 3)),
          counted])
      (.ok (.outcome ⟨"2", []⟩)) := by
  have edited := second.yields_without_notices "2" rfl (.of_not_creation rfl) attempts_second
  exact Operation.yields_map_iff.mpr ⟨.ok ⟨"2", []⟩, edited, rfl⟩

theorem run : Run .faultless initial trace { store := final } := by
  have asked : Run .faultless initial (trace.take 1) { store := initial } :=
    Run.start.step (Step.invoked 0 context (.edit first) (by simp))
  have asked : Run .faultless initial (trace.take 2) { store := initial } :=
    asked.step (Step.invoked 1 context (.edit second) (by simp [trace]))
  have loaded : Run .faultless initial (trace.take 3) { store := initial } :=
    asked.then_exchange (by simp [trace]) (by simp [trace]) yields_first
      (Answers.performed _ _)
  have loaded : Run .faultless initial (trace.take 4) { store := initial } :=
    loaded.then_exchange (by simp [trace]) (by simp [trace]) yields_second
      (Answers.performed _ _)
  have written : Run .faultless initial (trace.take 5) { store := middle } :=
    loaded.then_exchange (by simp [trace]) (by simp [trace]) yields_first
      (Answers.succeeded answer_first)
  have refused : Run .faultless initial (trace.take 6) { store := middle } :=
    written.then_exchange (by simp [trace]) (by simp [trace]) yields_second
      (Answers.failed answer_stale)
  have counted : Run .faultless initial (trace.take 7) { store := middle } :=
    refused.then_exchange (by simp [trace]) (by simp [trace]) yields_first (Answers.counted _)
  have returned : Run .faultless initial (trace.take 8) { store := middle } :=
    counted.step (Step.returned (by simp [trace]) (by simp [trace]) yields_first)
  have counted : Run .faultless initial (trace.take 9) { store := middle } :=
    returned.then_exchange (by simp [trace]) (by simp [trace]) yields_second (Answers.counted _)
  have paused : Run .faultless initial (trace.take 10) { store := middle } :=
    counted.then_exchange (by simp [trace]) (by simp [trace]) yields_second
      (Answers.paused _ fun _ => rfl)
  have loaded : Run .faultless initial (trace.take 11) { store := middle } :=
    paused.then_exchange (by simp [trace]) (by simp [trace]) yields_second
      (Answers.succeeded answer_reload)
  have written : Run .faultless initial (trace.take 12) { store := final } :=
    loaded.then_exchange (by simp [trace]) (by simp [trace]) yields_second
      (Answers.succeeded answer_second)
  have counted : Run .faultless initial (trace.take 13) { store := final } :=
    written.then_exchange (by simp [trace]) (by simp [trace]) yields_second (Answers.counted _)
  exact counted.step (Step.returned (by simp [trace]) (by simp [trace]) yields_second)

end Race

theorem linearizable_race :
    (Run .faultless Race.initial Race.trace { store := Race.final } ∧
      Race.initial.find? Race.context.key = some Race.start ∧
      Kept Race.context.key Race.trace) ∧
    ∃ order, Linearizes Race.context.key Race.initial Race.start Race.trace order := by
  have kept : Kept Race.context.key Race.trace := by
    intro caller bound member
    simp [Race.trace, Exchange.load, Exchange.write, Exchange.counted, Exchange.pause,
      Race.counted] at member
  exact ⟨⟨Race.run, Race.find?_initial, kept⟩, linearizable Race.run Race.find?_initial kept⟩

end PipelineRegistry
