import PipelineRegistry.Proofs.Creations
import PipelineRegistry.Proofs.Serving

/-!
# Progress

No caller waits for another, and the number of exchanges that an edit makes is bounded by the
number of its attempts. So every caller that keeps going comes to its result, whatever the others
do.
-/

namespace PipelineRegistry

open Registry

/-! ## Exchanges of one edit -/

section Lengths

variable {context : Context} {history : List Exchange}

theorem Attempts.length_le
    {α : Type} {mutation : Mutation} {change : Change α} {number remaining : Nat}
    {result : Except RegistryError α}
    (attempts : Attempts context mutation change number remaining history result) :
    history.length ≤ 4 * (remaining + 1) := by
  induction attempts with
  | again document version refused expected drafted remaining inductionHypothesis =>
      simp only [List.length_cons]
      omega
  | _ =>
      simp only [List.length_cons, List.length_nil]
      omega

namespace Edit

theorem length_notify_le
    {effect : SideEffect} {call : ServiceCall}
    {result : Except RegistryError (List SideEffectError)}
    (yields : Operation.Yields (Registry.notify context effect call) history result) :
    history.length ≤ 2 := by
  unfold Registry.notify at yields
  rw [Operation.yields_request_bind_iff] at yields
  obtain ⟨failure | answer, rest, rfl, yields⟩ := yields
  · obtain ⟨behind, rfl, ended⟩ := Registry.yields_count_bind_iff.mp yields
    obtain ⟨rfl, -⟩ := Operation.yields_pure_iff.mp ended
    simp
  · obtain ⟨rfl, -⟩ := Operation.yields_pure_iff.mp yields
    simp

theorem length_notifyAll_le
    {notices : List Notice} {result : Except RegistryError (List SideEffectError)}
    (yields : Operation.Yields (notifyAll context notices) history result) :
    history.length ≤ 2 * notices.length := by
  induction notices generalizing history result with
  | nil =>
      obtain ⟨rfl, -⟩ := Operation.yields_pure_iff.mp yields
      simp
  | cons notice rest inductionHypothesis =>
      rw [notifyAll, Operation.yields_bind_iff] at yields
      rcases yields with ⟨error, first, -⟩ | ⟨earlier, later, failures, rfl, first, yields⟩
      · have short := length_notify_le first
        rw [List.length_cons]
        omega
      have short := length_notify_le first
      rw [Operation.yields_bind_iff] at yields
      rcases yields with ⟨error, second, -⟩ | ⟨middle, last, more, rfl, second, ended⟩
      · have rested := inductionHypothesis second
        rw [List.length_append, List.length_cons]
        omega
      · obtain ⟨rfl, -⟩ := Operation.yields_pure_iff.mp ended
        have rested := inductionHypothesis second
        rw [List.append_nil, List.length_append, List.length_cons]
        omega

theorem length_le_of_yields
    {edit : Edit} {result : Except RegistryError MutationOutcome}
    (yields : Operation.Yields (edit.operation context) history result) :
    history.length ≤ 4 * max 1 context.settings.retryPolicy.maxAttempts.toNat + 5 := by
  rcases yields_operation yields with
    ⟨error, -, rfl, -⟩ |
    ⟨id, naming, attempts, notices, outcome, named, attempted, rfl, -, ended⟩
  · simp
  have namingShort : naming.length ≤ 1 := by
    unfold Named at named
    split at named
    · simp [named]
    · simp [named.1]
  have attemptsShort := attempted.length_le
  have noticesShort : notices.length ≤ 4 := by
    rcases ended with ⟨error, -, rfl, -⟩ | ⟨receipt, failures, rfl, notified, -⟩
    · simp
    · obtain ⟨_, _, _, _, _, _, -, changed, -⟩ := attempted.write_of_ok
      have few := length_notices_le changed
      have short := length_notifyAll_le notified
      omega
  simp only [List.length_append]
  omega

end Edit

end Lengths

/-! ## Callers in a run -/

namespace Run

variable {reliability : Reliability} {initial : Store} {final : Database} {trace : List Event}
  {caller : Nat} {context : Context}

theorem length_historyOf_le
    {edit : Edit} (run : Run reliability initial trace final)
    (asked : .invoked caller context (.edit edit) ∈ trace) :
    (historyOf caller trace).length ≤
      4 * max 1 context.settings.retryPolicy.maxAttempts.toNat + 5 := by
  obtain ⟨rest, leads⟩ := run.leads asked
  obtain ⟨later, result, completed⟩ := leads.exists_completion
  obtain ⟨outcome, edited, -⟩ := Operation.yields_map_iff.mp completed
  have short := Edit.length_le_of_yields edited
  rw [List.length_append] at short
  omega

/-- A caller that has not returned can go on. -/
theorem exists_step
    {command : Command} (run : Run reliability initial trace final)
    (asked : .invoked caller context command ∈ trace)
    (running : ∀ result, .returned caller result ∉ trace) :
    ∃ event after, Step reliability trace final event after ∧ event.isOf caller := by
  obtain ⟨rest, leads⟩ := run.leads asked
  cases rest with
  | done result => exact ⟨.returned caller result, final, Step.returned asked running leads, rfl⟩
  | ask request next =>
      let surroundings : Surroundings := ⟨"", fun _ => .error (.interrupted .cancelled)⟩
      let exchange : Exchange := ⟨request, (surroundings.answer final.store request).1⟩
      have answers := surroundings.answers reliability caller final request
      exact ⟨.exchanged caller exchange, _, Step.exchanged asked running leads answers, rfl⟩

end Run

end PipelineRegistry
