import PipelineRegistry.Proofs.FreshIds
import PipelineRegistry.Proofs.Invariants

/-!
# Ids and paths stay unique

In a store of unique documents all documents stay unique, however the callers of the registry get in
each other's way. The document that a write was drafted from was unique, and it did not hold the new
id: an id comes into the store by a commit of the caller it was given to, and a caller that writes
has committed nothing before.
-/

namespace PipelineRegistry

def Store.Unique (store : Store) : Prop :=
  ∀ key stored, store.find? key = some stored → stored.document.Unique

variable {reliability : Reliability} {initial : Store} {final : Database}
  {trace before behind : List Event} {event : Event} {caller : Nat} {context : Context}
  {edit : Edit} {written : PipelineDocument} {version : Version}

namespace Run

theorem unique_of_draft
    (run : Run reliability initial (before ++ behind) final)
    (fresh : FreshIds initial (before ++ behind))
    (unique : ∀ earlier, earlier <+: before → (initial.replay earlier).Unique)
    (draft : Draft initial caller context edit before written version) :
    written.Unique := by
  obtain ⟨id, document, counter, receipt, earlier, later, -, rfl, current, -, -, changed, named,
    harmless⟩ := draft
  have documentUnique : document.Unique :=
    unique earlier (List.prefix_append _ _) context.key ⟨document, counter⟩ current
  refine Edit.unique_of_change documentUnique ?_ changed
  intro creates member
  rw [List.append_assoc] at run fresh
  obtain ⟨database, runEarlier⟩ := run.exists_of_append
  exact runEarlier.not_holds_of_harmless fresh.of_append (named creates) harmless
    ⟨context.key, ⟨document, counter⟩, current, member⟩

/-- Every event keeps the store unique. -/
theorem unique_step
    (run : Run reliability initial (trace ++ [event]) final)
    (fresh : FreshIds initial (trace ++ [event]))
    (outside : ∀ key document version,
      event = .rival (.update key document version) → document.Unique)
    (unique : ∀ earlier, earlier <+: trace → (initial.replay earlier).Unique) :
    (initial.replay (trace ++ [event])).Unique := by
  refine run.all_step PipelineDocument.unique_empty outside ?_ (unique trace List.prefix_rfl)
  rintro before behind caller context edit written version rfl draft
  rw [List.append_assoc] at run fresh
  apply run.unique_of_draft fresh _ draft
  intro earlier former
  exact unique earlier (former.trans (List.prefix_append _ _))

end Run

/-- Ids and paths stay unique in every document, whatever callers ask for, in
whatever order their exchanges take place, and whatever answers are lost. Other
clients may write what is unique. -/
theorem unique_of_run
    (run : Run reliability initial trace final) (fresh : FreshIds initial trace)
    (unique : initial.Unique)
    (outside : ∀ key document version,
      .rival (.update key document version) ∈ trace → document.Unique) :
    final.store.Unique := by
  have everywhere : ∀ earlier, earlier <+: trace → (initial.replay earlier).Unique := by
    induction run with
    | start =>
        intro earlier former
        obtain rfl := List.prefix_nil.mp former
        exact unique
    | @step trace database after event run step inductionHypothesis =>
        have uniqueBefore := inductionHypothesis fresh.of_append fun key document version member =>
          outside key document version (List.mem_append_left _ member)
        intro earlier former
        rcases List.prefix_concat_iff.mp former with rfl | former
        · apply (run.step step).unique_step fresh _ uniqueBefore
          rintro key document version rfl
          exact outside key document version (by simp)
        · exact uniqueBefore earlier former
  rw [run.store_eq]
  exact everywhere trace List.prefix_rfl

theorem unique_of_run_lostAnswer :
    (Run .faulty LostAnswer.initial LostAnswer.trace { store := LostAnswer.final } ∧
      FreshIds LostAnswer.initial LostAnswer.trace ∧ LostAnswer.initial.Unique ∧
      ∀ key document version,
        .rival (.update key document version) ∈ LostAnswer.trace → document.Unique) ∧
    LostAnswer.final.Unique := by
  have unique : LostAnswer.initial.Unique := by
    intro key stored found
    rw [LostAnswer.eq_initial_of_find? found]
    exact PipelineDocument.unique_empty
  have outside (key : PipelineKey) (document : PipelineDocument) (version : Version)
      (member : .rival (.update key document version) ∈ LostAnswer.trace) :
      document.Unique := by
    simp [LostAnswer.trace] at member
  exact ⟨⟨LostAnswer.run, LostAnswer.freshIds, unique, outside⟩,
    unique_of_run LostAnswer.run LostAnswer.freshIds unique outside⟩

end PipelineRegistry
