import PipelineRegistry.Proofs.Commits

/-!
# Invariants of stored documents

What holds of the empty document, of documents that other clients write, and of every document that
an edit makes of one that it holds of, holds of all documents that a run comes by. A write may take
effect long after its document was drafted, so the invariant is carried for all beginnings of the run.
-/

namespace PipelineRegistry

variable {reliability : Reliability} {initial store : Store} {final : Database}
  {trace before behind : List Event} {event : Event} {caller : Nat} {context : Context}
  {edit : Edit} {written : PipelineDocument} {version : Version}
  {good : PipelineDocument → Prop}

def Store.All (good : PipelineDocument → Prop) (store : Store) : Prop :=
  ∀ key stored, store.find? key = some stored → good stored.document

theorem Store.All.after
    (all : store.All good) (empty : good {}) {call : StoreCall}
    (writes : ∀ key document version, call = .update key document version → good document) :
    (store.after call).All good := by
  intro key stored found
  rcases store.find?_after_cases call key with
    same | ⟨document, former, rfl, -, replaced⟩ | ⟨-, -, created⟩ | ⟨-, removed⟩
  · exact all key stored (same ▸ found)
  · rw [replaced] at found
    cases found
    exact writes key document _ rfl
  · rw [created] at found
    cases found
    exact empty
  · rw [removed] at found
    cases found

theorem Store.All.afterAll
    {calls : List StoreCall}
    (all : store.All good) (empty : good {})
    (updates : ∀ key document version, .update key document version ∈ calls → good document) :
    (store.afterAll calls).All good := by
  induction calls generalizing store with
  | nil => exact all
  | cons call calls inductionHypothesis =>
      apply inductionHypothesis
      · apply all.after empty
        rintro key document version rfl
        exact updates key document version List.mem_cons_self
      · intro key document version member
        exact updates key document version (List.mem_cons_of_mem call member)

namespace Run

/-- A caller that has come to write has passed the check of its fields. -/
theorem check_of_draft
    (run : Run reliability initial (before ++ behind) final)
    (draft : Draft initial caller context edit before written version) :
    edit.check = .ok () := by
  obtain ⟨_, document, _, _, earlier, later, asked, rfl, -⟩ := draft
  rw [List.append_assoc] at run
  obtain ⟨_, _, -, step⟩ := run.split
  cases step with
  | @exchanged _ _ command _ _ _ askedToo running leads answers =>
      obtain ⟨database, runEarlier⟩ := run.exists_of_append
      obtain ⟨rfl, rfl⟩ := runEarlier.asked_unique asked askedToo
      have answered := leads.extend (Exchange.load context (.ok (document, version))).answer
      obtain ⟨rest, result, completed⟩ := answered.exists_completion
      have yields : Operation.Yields ((Command.edit edit).operation context) _ result := completed
      obtain ⟨outcome, edited, -⟩ := Operation.yields_map_iff.mp yields
      exact Edit.check_of_yields edited (by simp)

/-- Every event keeps an invariant that drafts have. -/
theorem all_step
    (run : Run reliability initial (trace ++ [event]) final) (empty : good {})
    (outside : ∀ key document version,
      event = .rival (.update key document version) → good document)
    (drafted : ∀ before behind caller context edit written version,
      trace = before ++ behind → Draft initial caller context edit before written version →
      good written)
    (all : (initial.replay trace).All good) :
    (initial.replay (trace ++ [event])).All good := by
  have committed (commit : Commit) (found : event.commit? = some commit) :
      good commit.document := by
    obtain ⟨context, edit, earlier, -, ⟨rest, rfl⟩, draft⟩ := run.draft_of_commit found
    exact drafted earlier rest commit.caller context edit commit.document commit.version rfl draft
  cases effect : event.effect? with
  | none =>
      rw [Store.replay_append_of_none _ _ effect]
      exact all
  | some call =>
      rw [Store.replay_append_of_some _ _ effect]
      apply all.after empty
      rintro key document version rfl
      rcases effect?_eq_some_iff.mp effect with
        ⟨caller, bound, answered, rfl⟩ | ⟨caller, rfl⟩ | rfl
      · exact committed ⟨caller, key, document, version⟩ rfl
      · exact committed ⟨caller, key, document, version⟩ rfl
      · exact outside key document version rfl

/-- An invariant that edits keep is one of every run. -/
theorem all_of_edits
    (run : Run reliability initial trace final) (empty : good {}) (initially : initial.All good)
    (outside : ∀ key document version,
      .rival (.update key document version) ∈ trace → good document)
    (kept : ∀ caller context edit newId document written receipt,
      .invoked caller context (.edit edit) ∈ trace → edit.check = .ok () → good document →
      edit.change context newId document = .ok (written, receipt) → good written) :
    final.store.All good := by
  -- A write may land long after its document was read, so its invariant is the one of that time.
  have everywhere : ∀ earlier, earlier <+: trace → (initial.replay earlier).All good := by
    induction run with
    | start =>
        intro earlier former
        obtain rfl := List.prefix_nil.mp former
        exact initially
    | @step trace database after event run step inductionHypothesis =>
        have before := inductionHypothesis
          (fun key document version member =>
            outside key document version (List.mem_append_left _ member))
          fun caller context edit newId document written receipt asked =>
            kept caller context edit newId document written receipt (List.mem_append_left _ asked)
        intro earlier former
        rcases List.prefix_concat_iff.mp former with rfl | former
        · apply (run.step step).all_step empty
          · rintro key document version rfl
            exact outside key document version (by simp)
          · rintro front rest caller context edit written version rfl draft
            have checked := run.check_of_draft draft
            have asked := List.mem_append_left rest draft.asked_before
            obtain ⟨id, document, counter, receipt, past, later, -, rfl, current, -, -, changed, -⟩ :=
              draft
            have documentGood : good document := by
              refine before past ?_ context.key ⟨document, counter⟩ current
              exact (List.prefix_append _ _).trans (List.prefix_append _ _)
            exact kept caller context edit id document written receipt
              (List.mem_append_left _ asked) checked documentGood changed
          · exact before trace List.prefix_rfl
        · exact before earlier former
  rw [run.store_eq]
  exact everywhere trace List.prefix_rfl

end Run

end PipelineRegistry
