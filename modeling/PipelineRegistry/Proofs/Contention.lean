import PipelineRegistry.Proofs.Linearization
import PipelineRegistry.Proofs.Rejections

/-!
# Contention

A caller gives up when it has met another writer in each of its attempts. In a store without faults
every conflict is real: the document that was read has been replaced by a commit of somebody else
before the write. Each failed attempt is therefore charged to a commit of its own, and a caller that
gives up after some attempts has been overtaken at least as often.
-/

namespace PipelineRegistry

open Registry

/-! ## Commits between a reading and a write -/

/-- How often others than a caller have committed to a pipeline. -/
def overtakings (key : PipelineKey) (caller : Nat) (events : List Event) : Nat :=
  (commits events).countP fun commit => commit.key = key ∧ commit.caller ≠ caller

theorem overtakings_append
    (key : PipelineKey) (caller : Nat) (earlier later : List Event) :
    overtakings key caller (earlier ++ later) =
      overtakings key caller earlier + overtakings key caller later := by
  unfold overtakings
  rw [commits_append, List.countP_append]

theorem overtakings_cons_le
    (key : PipelineKey) (caller : Nat) (event : Event) (later : List Event) :
    overtakings key caller later ≤ overtakings key caller (event :: later) := by
  have split := overtakings_append key caller [event] later
  rw [List.singleton_append] at split
  omega

theorem Kept.of_append {key : PipelineKey} {earlier later : List Event}
    (kept : Kept key (earlier ++ later)) :
    Kept key earlier :=
  fun caller bound member => kept caller bound (List.mem_append_left later member)

namespace Run

variable {initial : Store} {final : Database} {trace before middle behind : List Event}
  {key : PipelineKey} {caller : Nat} {context : Context} {document written : PipelineDocument}
  {version : Version}

/-- What is stored for a pipeline stays as it is until somebody commits. -/
theorem find?_replay_of_quiet
    {stored : Stored}
    (run : Run .faultless initial (before ++ middle) final) (kept : Kept key (before ++ middle))
    (known : (initial.replay before).find? key = some stored)
    (quiet : ∀ commit ∈ commits middle, commit.key ≠ key) :
    (initial.replay (before ++ middle)).find? key = some stored := by
  induction middle generalizing before with
  | nil => simpa using known
  | cons event rest inductionHypothesis =>
      rw [List.append_cons] at run kept ⊢
      obtain ⟨database, runNow⟩ := run.exists_of_append
      apply inductionHypothesis run kept
      · apply (runNow.undisturbed_of_kept kept.of_append).find?_replay known
        intro commit committed
        exact quiet commit (List.mem_filterMap.mpr ⟨event, List.mem_cons_self, committed⟩)
      · intro commit member
        apply quiet commit
        rw [← List.singleton_append, commits_append]
        exact List.mem_append_right _ member

/-- A caller that has done nothing has committed nothing either. -/
theorem caller_ne_of_idle
    (run : Run .faultless initial (before ++ middle ++ behind) final)
    (idle : historyOf caller middle = []) {commit : Commit} (member : commit ∈ commits middle) :
    commit.caller ≠ caller := by
  rintro rfl
  obtain ⟨earlier, event, later, rfl, committed⟩ := mem_commits_iff.mp member
  have whole : before ++ (earlier ++ event :: later) ++ behind =
      (before ++ earlier) ++ event :: (later ++ behind) := by simp
  rw [whole] at run
  obtain ⟨bound, token, rfl⟩ := run.exchanged_of_commit committed
  have done : ⟨.store bound commit.call, .ok token⟩ ∈
      historyOf commit.caller
        (earlier ++ .exchanged commit.caller ⟨.store bound commit.call, .ok token⟩ :: later) :=
    mem_historyOf_iff.mpr (by simp)
  rw [idle] at done
  cases done

/-- A write is refused as stale only if somebody else has committed since the
document was read. -/
theorem overtaken_of_conflict
    {refused : PipelineKey} {expected : Version}
    (run : Run .faultless initial
      (before ++ .exchanged caller (.load context (.ok (document, version))) ::
        (middle ++ .exchanged caller (.write context written version
          (.error (.failed (.conflict refused expected)))) :: behind)) final)
    (kept : Kept context.key
      (before ++ .exchanged caller (.load context (.ok (document, version))) ::
        (middle ++ .exchanged caller (.write context written version
          (.error (.failed (.conflict refused expected)))) :: behind)))
    (idle : historyOf caller middle = []) :
    0 < overtakings context.key caller middle := by
  obtain ⟨counter, current, rfl⟩ := run.current_of_get
  have regroup : before ++ .exchanged caller (.load context (.ok (document, .ofCounter counter))) ::
        (middle ++ .exchanged caller (.write context written (.ofCounter counter)
          (.error (.failed (.conflict refused expected)))) :: behind) =
      (before ++ [.exchanged caller (.load context (.ok (document, .ofCounter counter)))]) ++
        middle ++ .exchanged caller (.write context written (.ofCounter counter)
          (.error (.failed (.conflict refused expected)))) :: behind := by simp
  rw [regroup] at run kept
  apply List.countP_pos_iff.mpr
  apply Classical.byContradiction
  intro alone
  have quiet : ∀ commit ∈ commits middle, commit.key ≠ context.key := by
    intro commit member sameKey
    refine alone ⟨commit, member, ?_⟩
    have other := run.caller_ne_of_idle idle member
    simpa using ⟨sameKey, other⟩
  obtain ⟨database, runMiddle⟩ := run.exists_of_append
  have unread : (initial.replay
      (before ++ [.exchanged caller (.load context (.ok (document, .ofCounter counter)))])).find?
        context.key = some ⟨document, counter⟩ := by
    rw [Store.replay_append]
    exact current
  have unchanged := runMiddle.find?_replay_of_quiet kept.of_append unread quiet
  have accepted : (initial.replay
      (before ++ [.exchanged caller (.load context (.ok (document, .ofCounter counter)))] ++
        middle)).answer (.update context.key written (.ofCounter counter)) =
      .ok (.ofCounter (counter + 1)) :=
    Store.answer_update_eq_ok_iff.mpr ⟨_, unchanged, rfl, rfl⟩
  have refusal := run.answer_of_exchanged
  rw [accepted] at refusal
  cases refusal

end Run

/-! ## Giving up -/

/-- Between the first reading of a caller and its last write, others have
committed to the pipeline at least so often. -/
inductive Overtaken (trace : List Event) (caller : Nat) (context : Context) (times : Nat) : Prop
  | intro (before middle behind : List Event) (document written : PipelineDocument)
      (version expected : Version) (answer : Except (CallError StoreError) Version)
      (split : trace =
        before ++ .exchanged caller (.load context (.ok (document, version))) ::
          (middle ++ .exchanged caller (.write context written expected answer) :: behind))
      (first : ∀ bound call answer, .exchanged caller ⟨.store bound call, answer⟩ ∉ before)
      (last : ∀ exchange ∈ historyOf caller behind, exchange.isWrite = false)
      (others : times ≤ overtakings context.key caller middle)

section GivingUp

variable {initial : Store} {final : Database} {trace before rest : List Event}
  {key : PipelineKey} {caller : Nat} {context : Context} {mutation : Mutation}
  {change : Change Receipt} {number remaining gaveUpAfter : Nat} {history : List Exchange}

/-- Each attempt that fails is charged to a commit of its own. -/
theorem Attempts.overtakings_of_keptChanging
    (attempts : Attempts context mutation change number remaining history
      (.error (.keptChanging key gaveUpAfter)))
    (rejections : ∀ document error, change document = .error error → error.IsRejection)
    (run : Run .faultless initial (before ++ rest) final)
    (kept : Kept context.key (before ++ rest))
    (own : historyOf caller rest = history) :
    (key = context.key ∧ gaveUpAfter = number + remaining) ∧
    ∃ lead middle behind document written version expected answer,
      rest = lead ++ .exchanged caller (.load context (.ok (document, version))) ::
        (middle ++ .exchanged caller (.write context written expected answer) :: behind) ∧
      historyOf caller lead = [] ∧
      (∀ exchange ∈ historyOf caller behind, exchange.isWrite = false) ∧
      remaining + 1 ≤ overtakings context.key caller middle := by
  generalize same : (Except.error (.keptChanging key gaveUpAfter) :
    Except RegistryError Receipt) = result at attempts
  induction attempts generalizing before rest with
  | unread failure =>
      rcases failure with error | cause
      · cases error <;> cases same
      · cases same
  | rejected document version rejects =>
      cases same
      cases rejections _ _ rejects
  | stored document version later drafted => cases same
  | refused document version error drafted other => cases error <;> cases same
  | recovered document version later cause drafted => cases same
  | doubtful document version cause answer drafted missing => cases same
  | exhausted document version refused expected drafted =>
      cases same
      obtain ⟨lead, behindRead, rfl, none, own⟩ := historyOf_split_cons own
      obtain ⟨middle, behind, rfl, idle, own⟩ := historyOf_split_cons own
      refine ⟨⟨rfl, rfl⟩, lead, middle, behind, document, _, version, version, _, rfl, none, ?_, ?_⟩
      · rw [own]
        simp
      · rw [← List.append_assoc] at run kept
        exact run.overtaken_of_conflict kept idle
  | abandoned document version refused expected drafted => cases same
  | @again number fewer document version written output refused expected later result drafted
      remaining inductionHypothesis =>
      obtain ⟨lead, behindRead, rfl, none, own⟩ := historyOf_split_cons own
      obtain ⟨middle, behindWrite, rfl, idle, own⟩ := historyOf_split_cons own
      obtain ⟨counting, behindCount, rfl, -, own⟩ := historyOf_split_cons own
      obtain ⟨pausing, behindPause, rfl, -, own⟩ := historyOf_split_cons own
      let conflicted : Event := .exchanged caller
        (.write context written version (.error (.failed (.conflict refused expected))))
      let between : List Event :=
        conflicted :: (counting ++ .exchanged caller (.counted .storeConflicts) ::
          (pausing ++ [.exchanged caller (.pause context number true)]))
      have regroup (front back : List Event) :
          front ++ (lead ++ .exchanged caller (.load context (.ok (document, version))) ::
            (middle ++ conflicted :: (counting ++ .exchanged caller (.counted .storeConflicts) ::
              (pausing ++ .exchanged caller (.pause context number true) :: back)))) =
          (front ++ (lead ++ .exchanged caller (.load context (.ok (document, version))) ::
            (middle ++ between))) ++ back := by
        simp [between]
      have here : 0 < overtakings context.key caller middle := by
        rw [← List.append_assoc] at run kept
        exact run.overtaken_of_conflict kept idle
      rw [regroup] at run kept
      obtain ⟨⟨rfl, rfl⟩, lead', middle', behind', document', written', version', expected', answer',
        rfl, -, last, others⟩ := inductionHypothesis run kept own same
      refine ⟨⟨rfl, by omega⟩, lead,
        middle ++ between ++
          (lead' ++ .exchanged caller (.load context (.ok (document', version'))) :: middle'),
        behind', document, written', version, expected', answer', ?_, none, last, ?_⟩
      · simp [between, conflicted]
      · have tail := overtakings_cons_le context.key caller
          (.exchanged caller (.load context (.ok (document', version')))) middle'
        simp only [overtakings_append]
        omega

end GivingUp

theorem Edit.Named.not_mem_store
    {edit : Edit} {id : String} {naming : List Exchange} (named : edit.Named id naming)
    {bound : Bound} {call : StoreCall} {answer : Except (CallError StoreError) call.Answer} :
    ⟨.store bound call, answer⟩ ∉ naming := by
  intro member
  unfold Edit.Named at named
  split at named
  · rw [named] at member
    cases List.mem_singleton.mp member
  · rw [named.1] at member
    cases member

namespace Run

variable {initial : Store} {final : Database} {trace : List Event} {key : PipelineKey}
  {caller attempts : Nat} {context : Context} {edit : Edit}

/-- A caller gives up after as many attempts as it may make, and others have
overtaken it as often. -/
theorem overtaken_of_keptChanging
    (run : Run .faultless initial trace final) (kept : Kept context.key trace)
    (asked : .invoked caller context (.edit edit) ∈ trace)
    (returned : .returned caller (.error (.keptChanging key attempts)) ∈ trace) :
    key = context.key ∧ attempts = max 1 context.settings.retryPolicy.maxAttempts.toNat ∧
      Overtaken trace caller context attempts := by
  obtain ⟨result, edited, same⟩ := Operation.yields_map_iff.mp (run.yields asked returned)
  cases result with
  | ok outcome => cases same
  | error failure =>
      cases same
      rcases Edit.yields_operation edited with
        ⟨error, checked, -, same⟩ |
        ⟨id, naming, attempted, notices, outcome, named, made, split, -, ended⟩
      · cases same
        obtain ⟨violation, impossible⟩ := edit.onlyViolations_check _ checked
        cases impossible
      rcases ended with ⟨error, rfl, rfl, same⟩ | ⟨receipt, failures, -, -, impossible⟩
      · cases same
        rw [List.append_nil] at split
        obtain ⟨before, rest, rfl, first, second⟩ := List.filterMap_eq_append_iff.mp split
        obtain ⟨⟨rfl, rfl⟩, lead, middle, behind, document, written, version, expected, answer, rfl,
          none, last, others⟩ :=
          made.overtakings_of_keptChanging (fun _ _ => Edit.isRejection_of_change) run kept second
        have number : 1 + (context.settings.retryPolicy.maxAttempts.toNat - 1) =
            max 1 context.settings.retryPolicy.maxAttempts.toNat := by omega
        refine ⟨rfl, number, before ++ lead, middle, behind, document, written, version, expected,
          answer, by simp, ?_, last, by omega⟩
        intro bound call answer member
        rw [← mem_historyOf_iff, historyOf_append, none, List.append_nil] at member
        have own : historyOf caller before = naming := first
        rw [own] at member
        exact absurd member named.not_mem_store
      · cases impossible

end Run

end PipelineRegistry
