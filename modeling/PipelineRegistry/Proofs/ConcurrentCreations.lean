import Mathlib.Data.List.Perm.Subperm
import PipelineRegistry.Proofs.Contention
import PipelineRegistry.Proofs.Creations
import PipelineRegistry.Proofs.Progress

/-!
# Creations that run at the same time

A pipeline that is edited by some callers is committed to at most once by each of them, so none of
them is overtaken as often as there are callers. If each may make as many attempts as there are
callers, none of them gives up. Creations that nobody makes invalid then all succeed, in whatever
order their exchanges take place, and all that they create is in the document in the end.
-/

namespace PipelineRegistry

open Registry

/-! ## Callers that edit a pipeline -/

def Event.editor? (key : PipelineKey) : Event → Option Nat
  | invoked caller context (.edit _) => if context.key = key then some caller else none
  | _ => none

/-- The callers that have asked for edits of a pipeline. -/
def editors (key : PipelineKey) (trace : List Event) : List Nat :=
  trace.filterMap (Event.editor? key)

section Editors

variable {reliability : Reliability} {initial : Store} {start : Stored} {final : Database}
  {trace : List Event} {event : Event} {key : PipelineKey} {caller : Nat} {context : Context}
  {edit : Edit} {order : List Turn}

theorem Event.editor?_eq_some_iff :
    event.editor? key = some caller ↔
      ∃ context edit, event = .invoked caller context (.edit edit) ∧ context.key = key := by
  constructor
  · intro found
    unfold editor? at found
    split at found
    · split at found
      · cases found
        exact ⟨_, _, rfl, ‹_›⟩
      · cases found
    · cases found
  · rintro ⟨context, edit, rfl, addressed⟩
    simp [editor?, addressed]

theorem mem_editors_iff :
    caller ∈ editors key trace ↔
      ∃ context edit, .invoked caller context (.edit edit) ∈ trace ∧ context.key = key := by
  unfold editors
  rw [List.mem_filterMap]
  constructor
  · rintro ⟨event, member, found⟩
    obtain ⟨context, edit, rfl, addressed⟩ := Event.editor?_eq_some_iff.mp found
    exact ⟨context, edit, member, addressed⟩
  · rintro ⟨context, edit, member, addressed⟩
    exact ⟨_, member, Event.editor?_eq_some_iff.mpr ⟨context, edit, rfl, addressed⟩⟩

namespace Run

theorem nodup_editors (run : Run reliability initial trace final) : (editors key trace).Nodup := by
  induction run with
  | start => exact List.nodup_nil
  | @step trace database after event run step inductionHypothesis =>
      unfold editors at inductionHypothesis ⊢
      rw [List.filterMap_append, List.nodup_append]
      refine ⟨inductionHypothesis, ?single, ?distinct⟩
      case single => cases found : event.editor? key <;> simp [found]
      case distinct =>
        intro first inTrace second isLast same
        subst same
        obtain ⟨happened, isEvent, found⟩ := List.mem_filterMap.mp isLast
        obtain rfl := List.mem_singleton.mp isEvent
        obtain ⟨context, edit, rfl, -⟩ := Event.editor?_eq_some_iff.mp found
        obtain ⟨_, _, asked, -⟩ := mem_editors_iff.mp inTrace
        cases step with
        | invoked _ _ _ new => exact new _ _ asked

theorem nodup_committers (run : Run reliability initial trace final) :
    ((commits trace).map Commit.caller).Nodup := by
  rw [List.nodup_iff_count]
  intro caller
  rw [List.count, List.countP_map]
  exact run.countP_commits_le_one caller

end Run

theorem Orders.nodup_callers
    (orders : Orders key initial start trace order) (run : Run reliability initial trace final) :
    (order.map Turn.caller).Nodup := by
  rw [orders.callers]
  exact run.nodup_committers.sublist (List.filter_sublist.map _)

theorem Orders.callers_subset (orders : Orders key initial start trace order) :
    order.map Turn.caller ⊆ editors key trace := by
  intro caller member
  obtain ⟨turn, inOrder, rfl⟩ := List.mem_map.mp member
  obtain ⟨asked, addressed, -⟩ := orders.asked turn inOrder
  exact mem_editors_iff.mpr ⟨turn.context, turn.edit, asked, addressed⟩

/-- Others commit less often than there are callers. -/
theorem Orders.overtakings_lt
    (orders : Orders key initial start trace order) (run : Run reliability initial trace final)
    (asks : caller ∈ editors key trace) :
    overtakings key caller trace < (editors key trace).length := by
  let others := ((commits trace).filter fun commit => commit.key = key ∧ commit.caller ≠ caller).map
    Commit.caller
  have count : overtakings key caller trace = others.length := by
    simp only [others, overtakings, List.length_map, List.countP_eq_length_filter]
  have apart : (caller :: others).Nodup := by
    rw [List.nodup_cons]
    refine ⟨?_, run.nodup_committers.sublist (List.filter_sublist.map _)⟩
    intro member
    obtain ⟨commit, chosen, same⟩ := List.mem_map.mp member
    have other := (List.mem_filter.mp chosen).2
    simp only [ne_eq, decide_eq_true_eq] at other
    exact other.2 same
  have known : caller :: others ⊆ editors key trace := by
    intro other member
    rcases List.mem_cons.mp member with rfl | member
    · exact asks
    · obtain ⟨commit, chosen, rfl⟩ := List.mem_map.mp member
      obtain ⟨committed, other⟩ := List.mem_filter.mp chosen
      simp only [ne_eq, decide_eq_true_eq] at other
      exact orders.callers_subset (orders.mem_callers_iff.mpr ⟨commit, committed, other.1, rfl⟩)
  have fits := (List.subperm_of_subset apart known).length_le
  rw [List.length_cons] at fits
  omega

end Editors

/-! ## What a stored pipeline is answered -/

section Answers

variable {initial : Store} {start : Stored} {final : Database} {trace before after : List Event}
  {key : PipelineKey} {caller : Nat} {context : Context} {order : List Turn}

theorem Orders.answer_of_load
    {answer : Except (CallError StoreError) (PipelineDocument × Version)}
    (orders : Orders key initial start trace order) (run : Run .faultless initial trace final)
    (addressed : context.key = key)
    (happened : .exchanged caller (.load context answer) ∈ trace) :
    ∃ earlier later document,
      order = earlier ++ later ∧ fold start.document earlier = .ok document ∧
        answer = .ok (document, .ofCounter (start.counter + earlier.length)) := by
  obtain ⟨before, after, rfl⟩ := List.append_of_mem happened
  obtain ⟨earlier, later, same, document, folded, known⟩ := orders.tracked before _ rfl
  subst addressed
  have answered := run.answer_of_exchanged
  rw [Store.answer_get_eq_ok_iff.mpr ⟨_, known, rfl⟩] at answered
  exact ⟨earlier, later, document, same, folded, answered⟩

theorem Orders.answer_of_write
    {written : PipelineDocument} {version : Version}
    {answer : Except (CallError StoreError) Version}
    (orders : Orders key initial start trace order) (run : Run .faultless initial trace final)
    (addressed : context.key = key)
    (happened : .exchanged caller (.write context written version answer) ∈ trace) :
    (∃ token, answer = .ok token) ∨ answer = .error (.failed (.conflict key version)) := by
  obtain ⟨before, after, rfl⟩ := List.append_of_mem happened
  obtain ⟨earlier, later, -, document, -, known⟩ := orders.tracked before _ rfl
  subst addressed
  have answered := run.answer_of_exchanged
  by_cases current : Version.ofCounter (start.counter + earlier.length) = version
  · rw [Store.answer_update_eq_ok_iff.mpr ⟨_, known, current, rfl⟩] at answered
    exact Or.inl ⟨_, answered⟩
  · rw [Store.answer_update_of_stale known current] at answered
    exact Or.inr answered

theorem Run.finished_of_pause
    {number : Nat} {finished : Bool} (run : Run .faultless initial trace final)
    (happened : .exchanged caller (.pause context number finished) ∈ trace) :
    finished = true := by
  obtain ⟨before, after, rfl⟩ := List.append_of_mem happened
  obtain ⟨database, latest, -, step⟩ := run.split
  cases step with
  | exchanged asked running leads answers =>
      cases answers with
      | paused duration heeded => exact heeded rfl

/-- Attempts on a stored pipeline fail because a document that the edits before
them have left is rejected, or because they are given up. -/
theorem Attempts.error_cases
    {mutation : Mutation} {change : Change Receipt} {number remaining : Nat}
    {history : List Exchange} {error : RegistryError}
    (attempts : Attempts context mutation change number remaining history (.error error))
    (orders : Orders key initial start trace order) (run : Run .faultless initial trace final)
    (addressed : context.key = key)
    (happened : ∀ exchange ∈ history, .exchanged caller exchange ∈ trace) :
    (∃ earlier later document,
      order = earlier ++ later ∧ fold start.document earlier = .ok document ∧
        change document = .error error) ∨
    ∃ gaveUpAfter, error = .keptChanging context.key gaveUpAfter := by
  generalize same : (Except.error error : Except RegistryError Receipt) = result at attempts
  induction attempts with
  | unread failure =>
      obtain ⟨_, _, _, -, -, impossible⟩ :=
        orders.answer_of_load run addressed (happened _ List.mem_cons_self)
      cases impossible
  | rejected document version rejects =>
      cases same
      obtain ⟨earlier, later, _, split, folded, read⟩ :=
        orders.answer_of_load run addressed (happened _ List.mem_cons_self)
      cases read
      exact Or.inl ⟨earlier, later, _, split, folded, rejects⟩
  | stored document version later drafted => cases same
  | refused document version failure drafted other =>
      have wrote := happened _ (List.mem_cons_of_mem _ List.mem_cons_self)
      rcases orders.answer_of_write run addressed wrote with ⟨_, impossible⟩ | stale
      · cases impossible
      · cases stale
        exact absurd rfl (other _ _)
  | recovered document version later cause drafted => cases same
  | doubtful document version cause answer drafted missing =>
      have wrote := happened _ (List.mem_cons_of_mem _ List.mem_cons_self)
      rcases orders.answer_of_write run addressed wrote with ⟨_, impossible⟩ | impossible
      · cases impossible
      · cases impossible
  | exhausted document version refused expected drafted =>
      cases same
      exact Or.inr ⟨_, rfl⟩
  | @abandoned number fewer document version written output refused expected drafted =>
      have waited := run.finished_of_pause (happened (.pause context number false) (by simp))
      cases waited
  | again document version refused expected drafted remaining inductionHypothesis =>
      apply inductionHypothesis _ same
      intro exchange member
      apply happened
      simp [member]

end Answers

/-! ## Creations that nobody makes invalid -/

/-- No order of what others ask of a pipeline makes an edit invalid. -/
def Unhindered (key : PipelineKey) (start : PipelineDocument) (trace : List Event) (caller : Nat)
    (context : Context) (edit : Edit) : Prop :=
  ∀ order document newId,
    (order.map Turn.caller).Nodup →
    (∀ turn ∈ order,
      turn.caller ≠ caller ∧ turn.context.key = key ∧
      .invoked turn.caller turn.context (.edit turn.edit) ∈ trace ∧
      (turn.edit.isCreation = true → .exchanged turn.caller ⟨.freshId, turn.newId⟩ ∈ trace)) →
    fold start order = .ok document →
    ∃ changed, edit.change context newId document = .ok changed

/-- A pipeline is edited by creations only, none of which makes another invalid, and each of them
may make as many attempts as there are. -/
structure Creations (key : PipelineKey) (start : PipelineDocument) (trace : List Event) : Prop where
  created : ∀ caller context edit,
    .invoked caller context (.edit edit) ∈ trace → context.key = key → edit.isCreation = true
  checked : ∀ caller context edit,
    .invoked caller context (.edit edit) ∈ trace → context.key = key → edit.check = .ok ()
  patient : ∀ caller context edit,
    .invoked caller context (.edit edit) ∈ trace → context.key = key →
    (editors key trace).length ≤ context.settings.retryPolicy.maxAttempts.toNat
  unhindered : ∀ caller context edit,
    .invoked caller context (.edit edit) ∈ trace → context.key = key →
    Unhindered key start trace caller context edit

/-- Creations succeed, whenever they return, and what they create is kept. None of them waits for
another, and none goes on for ever. -/
structure AllCreated (key : PipelineKey) (start : Stored) (trace : List Event)
    (final : Database) : Prop where
  succeeded : ∀ caller context edit result,
    .invoked caller context (.edit edit) ∈ trace → context.key = key →
    .returned caller result ∈ trace →
    ∃ outcome stored,
      result = .ok (.outcome outcome) ∧ final.store.find? key = some stored ∧
      edit.Recorded outcome.id stored.document
  complete :
    (∀ caller ∈ editors key trace, ∃ result, .returned caller result ∈ trace) →
    ∃ document,
      final.store.find? key = some ⟨document, start.counter + (editors key trace).length⟩ ∧
      document.ids.length = start.document.ids.length + (editors key trace).length
  unstuck : ∀ caller ∈ editors key trace,
    (∀ result, .returned caller result ∉ trace) →
    ∃ event after, Step .faultless trace final event after ∧ event.isOf caller
  bounded : ∀ caller context edit,
    .invoked caller context (.edit edit) ∈ trace →
    (historyOf caller trace).length ≤
      4 * max 1 context.settings.retryPolicy.maxAttempts.toNat + 5

section Creations

variable {initial : Store} {start : Stored} {final : Database} {trace : List Event}
  {key : PipelineKey} {caller : Nat} {context : Context} {edit : Edit} {order : List Turn}

/-- A creation that is told of success has put its record into the document,
where it stays. -/
theorem Orders.recorded_of_ok
    {reply : Reply}
    (orders : Orders key initial start trace order) (run : Run .faultless initial trace final)
    (creations : ∀ turn ∈ order, turn.edit.isCreation = true)
    (asked : .invoked caller context (.edit edit) ∈ trace) (addressed : context.key = key)
    (creates : edit.isCreation = true)
    (returned : .returned caller (.ok reply) ∈ trace) :
    ∃ outcome stored,
      reply = .outcome outcome ∧ (initial.replay trace).find? key = some stored ∧
      edit.Recorded outcome.id stored.document := by
  obtain ⟨result, edited, same⟩ := Operation.yields_map_iff.mp (run.yields asked returned)
  rcases Edit.yields_operation edited with
    ⟨error, -, -, rfl⟩ | ⟨id, naming, attempts, notices, attemptResult, -, attempted, split, -, ended⟩
  · cases same
  rcases ended with ⟨error, -, -, rfl⟩ | ⟨receipt, failures, rfl, -, rfl⟩
  · cases same
  cases same
  obtain ⟨earlier, document, version, written, answer, rest, rfl, changed, landed⟩ :=
    attempted.write_of_ok
  have place : historyOf caller trace =
      (naming ++ earlier ++ [.load context (.ok (document, version))]) ++
        .write context written version answer :: (rest ++ notices) := by
    rw [split]
    simp
  obtain ⟨before, after, rfl, -, -⟩ := historyOf_split place
  have wrote : .exchanged caller (.write context written version answer) ∈
      before ++ .exchanged caller (.write context written version answer) :: after := by simp
  obtain ⟨token, rfl⟩ : ∃ token, answer = .ok token := by
    rcases orders.answer_of_write run addressed wrote with told | stale
    · exact told
    · rcases landed with told | ⟨cause, _, _, lost, -⟩
      · exact told
      · rw [stale] at lost
        cases lost
  have committed :
      Event.commit? (.exchanged caller (.write context written version (.ok token))) =
        some ⟨caller, context.key, written, version⟩ := rfl
  obtain ⟨stored, -, -, became⟩ := run.find?_of_commit committed
  obtain ⟨past, future, rfl, drafted, pastFolded, known⟩ := orders.tracked
    (before ++ [.exchanged caller (.write context written version (.ok token))]) after (by simp)
  subst addressed
  rw [became] at known
  obtain ⟨rfl, -⟩ := Stored.mk.inj (Option.some.inj known)
  obtain ⟨last, folded, found⟩ := orders.folded
  have recorded := Edit.recorded_of_change creates changed
  rw [← Edit.id_of_creation creates changed] at recorded
  refine ⟨_, _, rfl, found, recorded.of_fold (fold_of_append pastFolded folded) ?_⟩
  intro turn member
  exact creations turn (List.mem_append_right _ member)

/-- An edit of a stored pipeline fails by its check, by a document that the
edits before it have left, or by giving up. -/
theorem Orders.error_cases
    {error : RegistryError}
    (orders : Orders key initial start trace order) (run : Run .faultless initial trace final)
    (asked : .invoked caller context (.edit edit) ∈ trace) (addressed : context.key = key)
    (returned : .returned caller (.error error) ∈ trace) :
    edit.check = .error error ∨
    (∃ earlier later document newId,
      order = earlier ++ later ∧ fold start.document earlier = .ok document ∧
        edit.change context newId document = .error error) ∨
    ∃ gaveUpAfter, error = .keptChanging context.key gaveUpAfter := by
  obtain ⟨result, edited, same⟩ := Operation.yields_map_iff.mp (run.yields asked returned)
  rcases result with failure | outcome
  · cases same
    rcases Edit.yields_operation edited with
      ⟨_, checked, -, same⟩ | ⟨id, naming, attempts, notices, outcome, -, attempted, split, -, ended⟩
    · cases same
      exact Or.inl checked
    apply Or.inr
    rcases ended with ⟨_, rfl, -, same⟩ | ⟨receipt, failures, -, -, impossible⟩
    · cases same
      have happened : ∀ exchange ∈ attempts, .exchanged caller exchange ∈ trace := by
        intro exchange member
        rw [← mem_historyOf_iff, split]
        simp [member]
      rcases attempted.error_cases orders run addressed happened with
        ⟨earlier, later, document, same, folded, rejects⟩ | gaveUp
      · exact Or.inl ⟨earlier, later, document, id, same, folded, rejects⟩
      · exact Or.inr gaveUp
    · cases impossible
  · cases same

theorem Overtaken.le_overtakings
    {times : Nat} (overtaken : Overtaken trace caller context times) :
    times ≤ overtakings context.key caller trace := by
  obtain ⟨before, middle, behind, document, written, version, expected, answer, rfl, -, -, others⟩ :=
    overtaken
  have readFirst := overtakings_cons_le context.key caller
    (.exchanged caller (.load context (.ok (document, version))))
    (middle ++ .exchanged caller (.write context written expected answer) :: behind)
  rw [overtakings_append] at readFirst ⊢
  omega

/-- A creation that nobody hinders does not fail. -/
theorem Creations.ok_of_returned
    {result : Except RegistryError Reply}
    (creations : Creations key start.document trace)
    (orders : Orders key initial start trace order) (run : Run .faultless initial trace final)
    (kept : Kept key trace)
    (asked : .invoked caller context (.edit edit) ∈ trace) (addressed : context.key = key)
    (returned : .returned caller result ∈ trace) :
    ∃ reply, result = .ok reply := by
  rcases result with error | reply
  · exfalso
    rcases orders.error_cases run asked addressed returned with
      failed | ⟨earlier, later, document, newId, rfl, folded, rejects⟩ | ⟨times, rfl⟩
    · rw [creations.checked caller context edit asked addressed] at failed
      cases failed
    · have unmade : caller ∉ (earlier ++ later).map Turn.caller := by
        rw [orders.mem_callers_iff]
        rintro ⟨commit, committed, -, sameCaller⟩
        exact run.caller_ne_of_error returned committed sameCaller
      have apart := orders.nodup_callers run
      rw [List.map_append] at apart unmade
      have others : ∀ turn ∈ earlier,
          turn.caller ≠ caller ∧ turn.context.key = key ∧
          .invoked turn.caller turn.context (.edit turn.edit) ∈ trace ∧
          (turn.edit.isCreation = true →
            .exchanged turn.caller ⟨.freshId, turn.newId⟩ ∈ trace) := by
        intro turn member
        obtain ⟨known, sameKey, issued⟩ := orders.asked turn (List.mem_append_left _ member)
        refine ⟨?_, sameKey, known, issued⟩
        rintro rfl
        exact unmade (List.mem_append_left _ (List.mem_map_of_mem member))
      obtain ⟨changed, accepted⟩ := creations.unhindered caller context edit asked addressed earlier
        document newId (List.nodup_append.mp apart).1 others folded
      rw [rejects] at accepted
      cases accepted
    · subst addressed
      obtain ⟨-, rfl, overtaken⟩ := run.overtaken_of_keptChanging kept asked returned
      have many := overtaken.le_overtakings
      have few := orders.overtakings_lt run (mem_editors_iff.mpr ⟨context, edit, asked, rfl⟩)
      have patient := creations.patient caller context edit asked rfl
      omega
  · exact ⟨reply, rfl⟩

theorem Creations.allCreated
    (creations : Creations key start.document trace)
    (run : Run .faultless initial trace final)
    (known : initial.find? key = some start) (kept : Kept key trace) :
    AllCreated key start trace final := by
  obtain ⟨order, orders⟩ := Orders.exists_of_run run known kept
  have made : ∀ turn ∈ order, turn.edit.isCreation = true := by
    intro turn member
    obtain ⟨asked, addressed, -⟩ := orders.asked turn member
    exact creations.created _ _ _ asked addressed
  refine ⟨?succeeded, ?complete, ?unstuck, fun _ _ _ asked => run.length_historyOf_le asked⟩
  case succeeded =>
    intro caller context edit result asked addressed returned
    obtain ⟨reply, rfl⟩ := creations.ok_of_returned orders run kept asked addressed returned
    have creates := creations.created caller context edit asked addressed
    obtain ⟨outcome, stored, rfl, found, recorded⟩ :=
      orders.recorded_of_ok run made asked addressed creates returned
    rw [run.store_eq]
    exact ⟨outcome, stored, rfl, found, recorded⟩
  case complete =>
    intro done
    have committed : editors key trace ⊆ order.map Turn.caller := by
      intro caller member
      obtain ⟨result, returned⟩ := done caller member
      obtain ⟨context, edit, asked, addressed⟩ := mem_editors_iff.mp member
      obtain ⟨reply, rfl⟩ := creations.ok_of_returned orders run kept asked addressed returned
      obtain ⟨commit, isCommit, sameKey, sameCaller⟩ := run.commit_of_ok asked returned
      exact orders.mem_callers_iff.mpr ⟨commit, isCommit, sameKey.trans addressed, sameCaller⟩
    have atLeast := (List.subperm_of_subset run.nodup_editors committed).length_le
    have atMost :=
      (List.subperm_of_subset (orders.nodup_callers run) orders.callers_subset).length_le
    rw [List.length_map] at atLeast atMost
    have size : order.length = (editors key trace).length := by omega
    obtain ⟨document, folded, found⟩ := orders.folded
    rw [run.store_eq, ← size]
    exact ⟨document, found, length_ids_of_fold folded made⟩
  case unstuck =>
    intro caller member running
    obtain ⟨context, edit, asked, -⟩ := mem_editors_iff.mp member
    exact run.exists_step asked running

end Creations

/-! ## Sources with paths of their own -/

/-- A pipeline is edited by creations of sources only, whose paths differ from each other and from
those that the pipeline has. -/
structure DistinctSources (key : PipelineKey) (start : PipelineDocument) (trace : List Event) :
    Prop where
  sources : ∀ caller context edit,
    .invoked caller context (.edit edit) ∈ trace → context.key = key →
    ∃ source,
      edit = .createSource source ∧ checkSource source = .ok () ∧
      ∀ record ∈ start.extractSources, record.path ≠ source.path
  patient : ∀ caller context edit,
    .invoked caller context (.edit edit) ∈ trace → context.key = key →
    (editors key trace).length ≤ context.settings.retryPolicy.maxAttempts.toNat
  apart : ∀ caller context source other otherContext otherSource,
    .invoked caller context (.edit (.createSource source)) ∈ trace → context.key = key →
    .invoked other otherContext (.edit (.createSource otherSource)) ∈ trace →
    otherContext.key = key → other ≠ caller → otherSource.path ≠ source.path

theorem DistinctSources.creations
    {key : PipelineKey} {start : PipelineDocument} {trace : List Event}
    (distinct : DistinctSources key start trace) :
    Creations key start trace := by
  refine ⟨?created, ?checked, distinct.patient, ?unhindered⟩
  case created =>
    intro caller context edit asked addressed
    obtain ⟨source, rfl, -, -⟩ := distinct.sources caller context edit asked addressed
    rfl
  case checked =>
    intro caller context edit asked addressed
    obtain ⟨source, rfl, checked, -⟩ := distinct.sources caller context edit asked addressed
    exact checked
  case unhindered =>
    intro caller context edit asked addressed order document newId _ others folded
    obtain ⟨source, rfl, -, absent⟩ := distinct.sources caller context edit asked addressed
    have onlySources : ∀ turn ∈ order, ∃ source, turn.edit = .createSource source := by
      intro turn member
      obtain ⟨-, sameKey, askedToo, -⟩ := others turn member
      obtain ⟨other, created, -, -⟩ := distinct.sources _ _ _ askedToo sameKey
      exact ⟨other, created⟩
    have free : document.pathTaken source.path none = false := by
      rw [pathTaken_eq_false_iff]
      intro record member samePath
      rcases path_of_fold folded onlySources member with old | ⟨turn, inOrder, other, created, path⟩
      · exact absurd samePath (absent record old)
      · obtain ⟨differs, sameKey, askedToo, -⟩ := others turn inOrder
        rw [created] at askedToo
        exact absurd (path.trans samePath)
          (distinct.apart _ _ _ _ _ _ asked addressed askedToo sameKey differs)
    have fits : (Edit.createSource source).Fits context document := free
    obtain ⟨receipt, changed⟩ := Edit.change_of_fits newId fits
    exact ⟨_, changed⟩

/-- A caller that gives up has been overtaken by others as often as it has tried. Creations that do
not hinder each other and may try as often as there are of them all succeed; creations of sources
with paths of their own are such. -/
theorem conflicts_are_real
    {initial : Store} {final : Database} {trace : List Event} {key : PipelineKey}
    (run : Run .faultless initial trace final) (kept : Kept key trace) :
    (∀ caller context edit addressed attempts,
      .invoked caller context (.edit edit) ∈ trace → context.key = key →
      .returned caller (.error (.keptChanging addressed attempts)) ∈ trace →
      addressed = key ∧ attempts = max 1 context.settings.retryPolicy.maxAttempts.toNat ∧
        Overtaken trace caller context attempts) ∧
    ∀ start,
      initial.find? key = some start →
      (Creations key start.document trace → AllCreated key start trace final) ∧
      (DistinctSources key start.document trace → Creations key start.document trace) := by
  refine ⟨?overtaken, ?created⟩
  case overtaken =>
    intro caller context edit addressed attempts asked sameKey returned
    subst sameKey
    exact run.overtaken_of_keptChanging kept asked returned
  case created =>
    intro start known
    exact ⟨fun creations => creations.allCreated run known kept, DistinctSources.creations⟩

/-! ## A caller that may try once only

Both callers of the race read the same document, and the second one gives up when the first one has
been faster. -/

namespace GivingUp

def impatient : Context :=
  ⟨{ retryPolicy := { RetryPolicy.standard with maxAttempts := 1 } }, Race.context.key⟩

def conflicted : Exchange :=
  .write impatient { transformFunctions := [Race.trim] } (.ofCounter 1)
    (.error (.failed (.conflict impatient.key (.ofCounter 1))))

def trace : List Event :=
  [.invoked 0 Race.context (.edit Race.first),
    .invoked 1 impatient (.edit Race.second),
    .exchanged 0 (.load Race.context (.ok (Race.start.document, .ofCounter 1))),
    .exchanged 1 (.load impatient (.ok (Race.start.document, .ofCounter 1))),
    .exchanged 0 (.write Race.context { transformFunctions := [Race.upper] } (.ofCounter 1)
      (.ok (.ofCounter 2))),
    .exchanged 1 conflicted,
    .exchanged 1 (.counted .storeConflicts),
    .returned 1 (.error (.keptChanging impatient.key 1))]

theorem yields :
    Operation.Yields ((Command.edit Race.second).operation impatient)
      [.load impatient (.ok (Race.start.document, .ofCounter 1)), conflicted,
        .counted .storeConflicts]
      (.error (.keptChanging impatient.key 1)) := by
  have edited : Operation.Yields (Race.second.operation impatient) _ _ :=
    Race.second.yields_of_failed_attempts rfl (.of_not_creation rfl)
      (Attempts.exhausted Race.start.document (.ofCounter 1) impatient.key (.ofCounter 1) rfl)
  exact Operation.yields_map_iff.mpr ⟨.error (.keptChanging impatient.key 1), edited, rfl⟩

theorem run : Run .faultless Race.initial trace { store := Race.middle } := by
  have asked : Run .faultless Race.initial (trace.take 1) { store := Race.initial } :=
    Run.start.step (Step.invoked 0 Race.context (.edit Race.first) (by simp))
  have asked : Run .faultless Race.initial (trace.take 2) { store := Race.initial } :=
    asked.step (Step.invoked 1 impatient (.edit Race.second) (by simp [trace]))
  have loaded : Run .faultless Race.initial (trace.take 3) { store := Race.initial } :=
    asked.then_exchange (by simp [trace]) (by simp [trace]) Race.yields_first
      (Answers.performed _ _)
  have loaded : Run .faultless Race.initial (trace.take 4) { store := Race.initial } :=
    loaded.then_exchange (by simp [trace]) (by simp [trace]) yields (Answers.performed _ _)
  have written : Run .faultless Race.initial (trace.take 5) { store := Race.middle } :=
    loaded.then_exchange (by simp [trace]) (by simp [trace]) Race.yields_first
      (Answers.succeeded Race.answer_first)
  have refused : Run .faultless Race.initial (trace.take 6) { store := Race.middle } :=
    written.then_exchange (by simp [trace]) (by simp [trace]) yields
      (Answers.failed Race.answer_stale)
  have counted : Run .faultless Race.initial (trace.take 7) { store := Race.middle } :=
    refused.then_exchange (by simp [trace]) (by simp [trace]) yields (Answers.counted _)
  exact counted.step (Step.returned (by simp [trace]) (by simp [trace]) yields)

theorem kept : Kept impatient.key trace := by
  intro caller bound member
  simp [trace, Exchange.load, Exchange.write, Exchange.counted, conflicted] at member

end GivingUp

/-! ## Two sources that are created at the same time -/

namespace TwoSources

def context : Context :=
  ⟨{}, ⟨"default", "sales"⟩⟩

def source (path : String) : ExtractSource where
  name := "orders"
  path := path
  scheme := some .csv
  regex := ".*"
  tablename := "orders"

def first : Edit :=
  .createSource (source "/a")

def second : Edit :=
  .createSource (source "/b")

def one : PipelineDocument :=
  { extractSources := [{ (source "/a").record with id := "1" }] }

def stale : PipelineDocument :=
  { extractSources := [{ (source "/b").record with id := "2" }] }

def both : PipelineDocument :=
  { extractSources :=
      [{ (source "/a").record with id := "1" }, { (source "/b").record with id := "2" }] }

def initial : Store :=
  ⟨[(context.key, .initial)]⟩

def middle : Store :=
  initial.after (.update context.key one (.ofCounter 1))

def final : Store :=
  middle.after (.update context.key both (.ofCounter 2))

def created : Exchange :=
  .counted (.mutations .extractSource .create)

def refreshed : Exchange :=
  ⟨.service context.settings.bound (.refreshSources context.key), .ok ()⟩

def conflicted : Exchange :=
  .write context stale (.ofCounter 1) (.error (.failed (.conflict context.key (.ofCounter 1))))

def trace : List Event :=
  [.invoked 0 context (.edit first),
    .invoked 1 context (.edit second),
    .exchanged 0 ⟨.freshId, "1"⟩,
    .exchanged 1 ⟨.freshId, "2"⟩,
    .exchanged 0 (.load context (.ok ({}, .ofCounter 1))),
    .exchanged 1 (.load context (.ok ({}, .ofCounter 1))),
    .exchanged 0 (.write context one (.ofCounter 1) (.ok (.ofCounter 2))),
    .exchanged 1 conflicted,
    .exchanged 0 created,
    .exchanged 0 refreshed,
    .returned 0 (.ok (.outcome ⟨"1", []⟩)),
    .exchanged 1 (.counted .storeConflicts),
    .exchanged 1 (.pause context 1 true),
    .exchanged 1 (.load context (.ok (one, .ofCounter 2))),
    .exchanged 1 (.write context both (.ofCounter 2) (.ok (.ofCounter 3))),
    .exchanged 1 created,
    .exchanged 1 refreshed,
    .returned 1 (.ok (.outcome ⟨"2", []⟩))]

theorem find?_initial : initial.find? context.key = some .initial :=
  rfl

theorem find?_middle : middle.find? context.key = some ⟨one, 2⟩ := by
  have current : Stored.initial.version = .ofCounter 1 := rfl
  rw [middle, Store.find?_after_update _ _ find?_initial current, if_pos rfl]
  rfl

theorem answer_first :
    initial.answer (.update context.key one (.ofCounter 1)) = .ok (.ofCounter 2) :=
  Store.answer_update_eq_ok_iff.mpr ⟨.initial, find?_initial, rfl, rfl⟩

theorem answer_stale :
    middle.answer (.update context.key stale (.ofCounter 1)) =
      .error (.failed (.conflict context.key (.ofCounter 1))) := by
  apply Store.answer_update_of_stale find?_middle
  intro same
  have impossible := Version.ofCounter_inj.mp same
  contradiction

theorem answer_reload : middle.answer (.get context.key) = .ok (one, .ofCounter 2) :=
  Store.answer_get_eq_ok_iff.mpr ⟨2, find?_middle, rfl⟩

theorem answer_second :
    middle.answer (.update context.key both (.ofCounter 2)) = .ok (.ofCounter 3) :=
  Store.answer_update_eq_ok_iff.mpr ⟨_, find?_middle, rfl, rfl⟩

theorem yields_refresh :
    Operation.Yields (Edit.notifyAll context [Edit.refreshNotice context]) [refreshed] (.ok []) := by
  rw [← Edit.sourcesChanged_eq]
  exact Operation.yields_request_bind_iff.mpr
    ⟨.ok (), [], rfl, Operation.yields_pure_iff.mpr ⟨rfl, rfl⟩⟩

theorem yields_first :
    Operation.Yields ((Command.edit first).operation context)
      [⟨.freshId, "1"⟩, .load context (.ok ({}, .ofCounter 1)),
        .write context one (.ofCounter 1) (.ok (.ofCounter 2)), created, refreshed]
      (.ok (.outcome ⟨"1", []⟩)) := by
  have edited := first.yields_of_attempts rfl (.of_creation rfl "1")
    (Attempts.stored {} (.ofCounter 1) (.ofCounter 2) rfl) yields_refresh
  exact Operation.yields_map_iff.mpr ⟨.ok ⟨"1", []⟩, edited, rfl⟩

theorem attempts_second :
    Attempts context second.mutation (second.change context "2") 1
      (context.settings.retryPolicy.maxAttempts.toNat - 1)
      [.load context (.ok ({}, .ofCounter 1)), conflicted,
        .counted .storeConflicts, .pause context 1 true,
        .load context (.ok (one, .ofCounter 2)),
        .write context both (.ofCounter 2) (.ok (.ofCounter 3)), created]
      (.ok ⟨"2", [Edit.refreshNotice context]⟩) :=
  Attempts.again {} (.ofCounter 1) context.key (.ofCounter 1) rfl
    (Attempts.stored one (.ofCounter 2) (.ofCounter 3) rfl)

theorem yields_second :
    Operation.Yields ((Command.edit second).operation context)
      [⟨.freshId, "2"⟩, .load context (.ok ({}, .ofCounter 1)), conflicted,
        .counted .storeConflicts, .pause context 1 true,
        .load context (.ok (one, .ofCounter 2)),
        .write context both (.ofCounter 2) (.ok (.ofCounter 3)), created, refreshed]
      (.ok (.outcome ⟨"2", []⟩)) := by
  have edited :=
    second.yields_of_attempts rfl (.of_creation rfl "2") attempts_second yields_refresh
  exact Operation.yields_map_iff.mpr ⟨.ok ⟨"2", []⟩, edited, rfl⟩

theorem run : Run .faultless initial trace { store := final } := by
  have asked : Run .faultless initial (trace.take 1) { store := initial } :=
    Run.start.step (Step.invoked 0 context (.edit first) (by simp))
  have asked : Run .faultless initial (trace.take 2) { store := initial } :=
    asked.step (Step.invoked 1 context (.edit second) (by simp [trace]))
  have named : Run .faultless initial (trace.take 3) { store := initial } :=
    asked.then_exchange (by simp [trace]) (by simp [trace]) yields_first (Answers.named "1")
  have named : Run .faultless initial (trace.take 4) { store := initial } :=
    named.then_exchange (by simp [trace]) (by simp [trace]) yields_second (Answers.named "2")
  have loaded : Run .faultless initial (trace.take 5) { store := initial } :=
    named.then_exchange (by simp [trace]) (by simp [trace]) yields_first (Answers.performed _ _)
  have loaded : Run .faultless initial (trace.take 6) { store := initial } :=
    loaded.then_exchange (by simp [trace]) (by simp [trace]) yields_second
      (Answers.performed _ _)
  have written : Run .faultless initial (trace.take 7) { store := middle } :=
    loaded.then_exchange (by simp [trace]) (by simp [trace]) yields_first
      (Answers.succeeded answer_first)
  have refused : Run .faultless initial (trace.take 8) { store := middle } :=
    written.then_exchange (by simp [trace]) (by simp [trace]) yields_second
      (Answers.failed answer_stale)
  have counted : Run .faultless initial (trace.take 9) { store := middle } :=
    refused.then_exchange (by simp [trace]) (by simp [trace]) yields_first (Answers.counted _)
  have told : Run .faultless initial (trace.take 10) { store := middle } :=
    counted.then_exchange (by simp [trace]) (by simp [trace]) yields_first
      (Answers.served _ _ _)
  have returned : Run .faultless initial (trace.take 11) { store := middle } :=
    told.step (Step.returned (by simp [trace]) (by simp [trace]) yields_first)
  have counted : Run .faultless initial (trace.take 12) { store := middle } :=
    returned.then_exchange (by simp [trace]) (by simp [trace]) yields_second (Answers.counted _)
  have paused : Run .faultless initial (trace.take 13) { store := middle } :=
    counted.then_exchange (by simp [trace]) (by simp [trace]) yields_second
      (Answers.paused _ fun _ => rfl)
  have loaded : Run .faultless initial (trace.take 14) { store := middle } :=
    paused.then_exchange (by simp [trace]) (by simp [trace]) yields_second
      (Answers.succeeded answer_reload)
  have written : Run .faultless initial (trace.take 15) { store := final } :=
    loaded.then_exchange (by simp [trace]) (by simp [trace]) yields_second
      (Answers.succeeded answer_second)
  have counted : Run .faultless initial (trace.take 16) { store := final } :=
    written.then_exchange (by simp [trace]) (by simp [trace]) yields_second (Answers.counted _)
  have told : Run .faultless initial (trace.take 17) { store := final } :=
    counted.then_exchange (by simp [trace]) (by simp [trace]) yields_second
      (Answers.served _ _ _)
  exact told.step (Step.returned (by simp [trace]) (by simp [trace]) yields_second)

theorem kept : Kept context.key trace := by
  intro caller bound member
  simp [trace, Exchange.load, Exchange.write, Exchange.counted, Exchange.pause, conflicted, created,
    refreshed] at member

theorem invoked_cases
    {caller : Nat} {asking : Context} {edit : Edit}
    (asked : .invoked caller asking (.edit edit) ∈ trace) :
    asking = context ∧ (caller = 0 ∧ edit = first ∨ caller = 1 ∧ edit = second) := by
  simp only [trace, List.mem_cons, Event.invoked.injEq, Command.edit.injEq, reduceCtorEq, List.not_mem_nil,
    or_false] at asked
  rcases asked with ⟨rfl, rfl, rfl⟩ | ⟨rfl, rfl, rfl⟩
  · exact ⟨rfl, Or.inl ⟨rfl, rfl⟩⟩
  · exact ⟨rfl, Or.inr ⟨rfl, rfl⟩⟩

theorem distinct : DistinctSources context.key {} trace where
  sources := by
    intro caller asking edit asked addressed
    obtain ⟨rfl, ⟨rfl, rfl⟩ | ⟨rfl, rfl⟩⟩ := invoked_cases asked
    · exact ⟨source "/a", rfl, rfl, by simp⟩
    · exact ⟨source "/b", rfl, rfl, by simp⟩
  patient := by
    intro caller asking edit asked addressed
    obtain ⟨rfl, -⟩ := invoked_cases asked
    decide
  apart := by
    intro caller asking source other otherAsking otherSource asked _ askedToo _ differs
    obtain ⟨-, ⟨rfl, same⟩ | ⟨rfl, same⟩⟩ := invoked_cases asked
    · obtain ⟨-, ⟨rfl, -⟩ | ⟨-, sameToo⟩⟩ := invoked_cases askedToo
      · exact absurd rfl differs
      · cases same
        cases sameToo
        decide
    · obtain ⟨-, ⟨-, sameToo⟩ | ⟨rfl, -⟩⟩ := invoked_cases askedToo
      · cases same
        cases sameToo
        decide
      · exact absurd rfl differs

end TwoSources

theorem conflicts_are_real_examples :
    ((Run .faultless Race.initial GivingUp.trace { store := Race.middle } ∧
        Kept GivingUp.impatient.key GivingUp.trace) ∧
      Overtaken GivingUp.trace 1 GivingUp.impatient 1) ∧
    (Run .faultless TwoSources.initial TwoSources.trace { store := TwoSources.final } ∧
      Kept TwoSources.context.key TwoSources.trace ∧
      TwoSources.initial.find? TwoSources.context.key = some .initial ∧
      DistinctSources TwoSources.context.key {} TwoSources.trace) ∧
    AllCreated TwoSources.context.key .initial TwoSources.trace { store := TwoSources.final } := by
  refine ⟨⟨⟨GivingUp.run, GivingUp.kept⟩, ?gaveUp⟩,
    ⟨TwoSources.run, TwoSources.kept, TwoSources.find?_initial, TwoSources.distinct⟩, ?created⟩
  case gaveUp =>
    have charged := (conflicts_are_real GivingUp.run GivingUp.kept).1
    exact (charged 1 GivingUp.impatient Race.second GivingUp.impatient.key 1
      (by simp [GivingUp.trace]) rfl (by simp [GivingUp.trace])).2.2
  case created =>
    have creations := (conflicts_are_real TwoSources.run TwoSources.kept).2 _ TwoSources.find?_initial
    exact creations.1 (creations.2 TwoSources.distinct)

end PipelineRegistry
