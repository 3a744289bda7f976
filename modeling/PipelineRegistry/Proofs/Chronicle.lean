import PipelineRegistry.Proofs.Commits
import PipelineRegistry.Proofs.Rejections

/-!
# Chronicles

The edits of a pipeline that take effect stand in one order, and each is applied to the whole
document that the edits before it have left: a write is accepted only while the version that was read
is current, and versions grow with every write. This holds in faulty stores too, as long as nobody
deletes the pipeline or writes it without the registry.
-/

namespace PipelineRegistry

/-! ## Turns -/

/-- The turn of an edit: who asked for it, and the id it was given if it makes a
new entity. -/
structure Turn where
  caller : Nat
  context : Context
  edit : Edit
  newId : String
  deriving DecidableEq, Repr

/-- What the edit whose turn it is makes of a document. -/
def Turn.apply (document : PipelineDocument) (turn : Turn) :
    Except RegistryError PipelineDocument :=
  (turn.edit.change turn.context turn.newId document).map Prod.fst

/-- What edits make of a document, one after the other. -/
def fold (start : PipelineDocument) (order : List Turn) :
    Except RegistryError PipelineDocument :=
  order.foldlM Turn.apply start

/-- A store holds what edits have made of a document, and has counted them. -/
def Reflects (key : PipelineKey) (start : Stored) (order : List Turn) (store : Store) : Prop :=
  ∃ document,
    fold start.document order = .ok document ∧
      store.find? key = some ⟨document, start.counter + order.length⟩

section Chronicles

variable {reliability : Reliability} {initial : Store} {final : Database}
  {trace before after : List Event} {event : Event} {key : PipelineKey} {start : Stored}
  {order turns : List Turn} {turn : Turn} {commit : Commit}

theorem fold_concat_eq_ok_iff
    {start written : PipelineDocument} {turn : Turn} :
    fold start (order ++ [turn]) = .ok written ↔
      ∃ document, fold start order = .ok document ∧ turn.apply document = .ok written := by
  unfold fold
  rw [List.foldlM_append, Except.bind_eq_ok_iff]
  simp only [List.foldlM_cons, List.foldlM_nil, bind_pure]

/-! ## Pipelines that only the registry touches -/

/-- Nobody deletes a pipeline, and nobody but callers of the registry writes it. -/
structure Undisturbed (key : PipelineKey) (trace : List Event) : Prop where
  kept : ∀ event ∈ trace, event.effect? ≠ some (.delete key)
  own : ∀ document version, .rival (.update key document version) ∉ trace

namespace Undisturbed

theorem of_append (undisturbed : Undisturbed key (before ++ after)) : Undisturbed key before where
  kept := fun event member => undisturbed.kept event (List.mem_append_left _ member)
  own := fun document version member =>
    undisturbed.own document version (List.mem_append_left _ member)

/-- Only commits touch a pipeline that is stored. -/
theorem find?_replay
    (undisturbed : Undisturbed key (trace ++ [event]))
    {stored : Stored} (known : (initial.replay trace).find? key = some stored)
    (uncommitted : ∀ commit, event.commit? = some commit → commit.key ≠ key) :
    (initial.replay (trace ++ [event])).find? key = some stored := by
  cases effect : event.effect? with
  | none =>
      rw [Store.replay_append_of_none _ _ effect]
      exact known
  | some call =>
      rw [Store.replay_append_of_some _ _ effect]
      rcases Store.find?_after_cases (initial.replay trace) call key with
        same | ⟨document, former, rfl, -, -⟩ | ⟨-, absent, -⟩ | ⟨rfl, -⟩
      · rw [same]
        exact known
      · rcases effect?_eq_some_iff.mp effect with
          ⟨caller, bound, answered, rfl⟩ | ⟨caller, rfl⟩ | rfl
        · exact absurd rfl (uncommitted _ rfl)
        · exact absurd rfl (uncommitted _ rfl)
        · exact absurd (by simp) (undisturbed.own document former.version)
      · rw [absent] at known
        cases known
      · exact absurd effect (undisturbed.kept event (by simp))

end Undisturbed

/-- At every time so far, a beginning of the order was reflected. -/
def Tracked (key : PipelineKey) (initial : Store) (start : Stored) (trace : List Event)
    (order : List Turn) : Prop :=
  ∀ before after, trace = before ++ after →
    ∃ earlier later, order = earlier ++ later ∧ Reflects key start earlier (initial.replay before)

theorem Tracked.extend
    (tracked : Tracked key initial start trace order)
    (reflects : Reflects key start (order ++ turns) (initial.replay (trace ++ [event]))) :
    Tracked key initial start (trace ++ [event]) (order ++ turns) := by
  intro before after split
  rcases append_singleton_cases split with ⟨rfl, rfl⟩ | ⟨between, rfl, rfl⟩
  · exact ⟨order ++ turns, [], by simp, reflects⟩
  · obtain ⟨earlier, later, rfl, reflected⟩ := tracked before between rfl
    exact ⟨earlier, later ++ turns, by simp, reflected⟩

/-- A commit to the pipeline was drafted from what the whole order has left. -/
theorem Run.drafted_from_last
    (run : Run reliability initial (trace ++ [event]) final)
    (reflects : Reflects key start order (initial.replay trace))
    (tracked : Tracked key initial start trace order)
    (committed : event.commit? = some commit) (addressed : commit.key = key) :
    ∃ document context edit id receipt,
      fold start.document order = .ok document ∧
      (initial.replay trace).find? key = some ⟨document, start.counter + order.length⟩ ∧
      context.key = key ∧ .invoked commit.caller context (.edit edit) ∈ trace ∧
      (edit.isCreation = true → .exchanged commit.caller ⟨.freshId, id⟩ ∈ trace) ∧
      edit.change context id document = .ok (commit.document, receipt) := by
  obtain ⟨stored, known, current, -⟩ := run.find?_of_commit committed
  rw [addressed] at known
  obtain ⟨document, folded, found⟩ := reflects
  rw [known] at found
  cases found
  obtain ⟨context, edit, _, sameKey, ⟨rest, rfl⟩, draft⟩ := run.draft_of_commit committed
  obtain ⟨id, read, counter, receipt, earlier, later, asked, rfl, drafted, presented, -, changed,
    named, -⟩ := draft
  rw [addressed] at sameKey
  rw [sameKey] at drafted
  obtain ⟨earlierOrder, laterOrder, rfl, readDocument, readFolded, readFound⟩ :=
    tracked earlier _ (List.append_assoc _ _ _)
  rw [drafted] at readFound
  cases readFound
  -- The versions agree, so nothing was committed since the document was read.
  have sameCounter :
      start.counter + (earlierOrder ++ laterOrder).length =
        start.counter + earlierOrder.length := by
    rw [presented] at current
    exact Version.ofCounter_inj.mp current
  obtain rfl : laterOrder = [] := by
    rw [List.length_append] at sameCounter
    exact List.length_eq_zero_iff.mp (by omega)
  rw [List.append_nil] at folded known ⊢
  rw [folded] at readFolded
  cases readFolded
  refine ⟨document, context, edit, id, receipt, folded, known, sameKey, ?_, ?_, changed⟩
  · rw [List.append_assoc]
    exact List.mem_append_left _ asked
  · intro creates
    rw [List.append_assoc]
    exact List.mem_append_left _ (named creates)

/-! ## The chronicle of a run -/

/-- The turns of the callers that have committed to a pipeline, in the order of
their commits. The document that is committed is what the edit makes of the one
that all turns before have left. -/
inductive Chronicle (key : PipelineKey) (start : PipelineDocument) :
    List Event → List Turn → Prop
  | start : Chronicle key start [] []
  | idle {trace : List Event} {order : List Turn} (event : Event)
      (chronicle : Chronicle key start trace order)
      (uncommitted : ∀ commit, event.commit? = some commit → commit.key ≠ key) :
      Chronicle key start (trace ++ [event]) order
  | turn {trace : List Event} {order : List Turn} {event : Event} {commit : Commit}
      {document : PipelineDocument} (turn : Turn)
      (chronicle : Chronicle key start trace order)
      (committed : event.commit? = some commit) (addressed : commit.key = key)
      (sameCaller : turn.caller = commit.caller) (sameKey : turn.context.key = key)
      (asked : .invoked turn.caller turn.context (.edit turn.edit) ∈ trace)
      (named : turn.edit.isCreation = true → .exchanged turn.caller ⟨.freshId, turn.newId⟩ ∈ trace)
      (folded : fold start order = .ok document)
      (applied : turn.apply document = .ok commit.document) :
      Chronicle key start (trace ++ [event]) (order ++ [turn])

namespace Chronicle

theorem asked
    {start : PipelineDocument} (chronicle : Chronicle key start trace order) :
    ∀ turn ∈ order,
      .invoked turn.caller turn.context (.edit turn.edit) ∈ trace ∧ turn.context.key = key := by
  induction chronicle with
  | start => simp
  | idle event chronicle uncommitted inductionHypothesis =>
      intro turn member
      obtain ⟨invoked, addressed⟩ := inductionHypothesis turn member
      exact ⟨List.mem_append_left _ invoked, addressed⟩
  | turn turn chronicle committed addressed sameCaller sameKey asked named folded applied
      inductionHypothesis =>
      intro tested member
      rcases List.mem_append.mp member with member | member
      · obtain ⟨invoked, addressed⟩ := inductionHypothesis tested member
        exact ⟨List.mem_append_left _ invoked, addressed⟩
      · obtain rfl := List.mem_singleton.mp member
        exact ⟨List.mem_append_left _ asked, sameKey⟩

theorem reflects
    (chronicle : Chronicle key start.document trace order)
    (run : Run reliability initial trace final) (undisturbed : Undisturbed key trace)
    (known : initial.find? key = some start) :
    Reflects key start order (initial.replay trace) := by
  induction chronicle generalizing final with
  | start => exact ⟨start.document, rfl, by simpa using known⟩
  | idle event chronicle uncommitted inductionHypothesis =>
      obtain ⟨database, runBefore⟩ := run.exists_of_append
      obtain ⟨document, folded, found⟩ := inductionHypothesis runBefore undisturbed.of_append
      exact ⟨document, folded, undisturbed.find?_replay found uncommitted⟩
  | @turn trace order event commit document turn chronicle committed addressed sameCaller sameKey
      asked named folded applied inductionHypothesis =>
      obtain ⟨database, runBefore⟩ := run.exists_of_append
      obtain ⟨former, formerFolded, found⟩ := inductionHypothesis runBefore undisturbed.of_append
      obtain ⟨stored, present, -, became⟩ := run.find?_of_commit committed
      rw [addressed] at present became
      rw [found] at present
      cases present
      refine ⟨commit.document, fold_concat_eq_ok_iff.mpr ⟨document, folded, applied⟩, ?_⟩
      rw [became]
      simp only [List.length_append, List.length_singleton, Int.natCast_add, Option.some.injEq,
        Stored.mk.injEq, true_and]
      omega

theorem tracked
    (chronicle : Chronicle key start.document trace order)
    (run : Run reliability initial trace final) (undisturbed : Undisturbed key trace)
    (known : initial.find? key = some start) :
    Tracked key initial start trace order := by
  induction chronicle generalizing final with
  | start =>
      intro before after split
      obtain ⟨rfl, rfl⟩ := List.append_eq_nil_iff.mp split.symm
      exact ⟨[], [], rfl, start.document, rfl, by simpa using known⟩
  | @idle trace order event chronicle uncommitted inductionHypothesis =>
      obtain ⟨database, runBefore⟩ := run.exists_of_append
      have whole := Chronicle.idle event chronicle uncommitted
      have reflects := whole.reflects run undisturbed known
      have tracked := inductionHypothesis runBefore undisturbed.of_append
      rw [← order.append_nil] at reflects ⊢
      exact tracked.extend reflects
  | turn turn chronicle committed addressed sameCaller sameKey asked named folded applied
      inductionHypothesis =>
      obtain ⟨database, runBefore⟩ := run.exists_of_append
      have whole := Chronicle.turn turn chronicle committed addressed sameCaller sameKey asked named
        folded applied
      exact (inductionHypothesis runBefore undisturbed.of_append).extend
        (whole.reflects run undisturbed known)

/-- Every run of a pipeline that only the registry touches has a chronicle. -/
theorem exists_of_run
    (run : Run reliability initial trace final) (undisturbed : Undisturbed key trace)
    (known : initial.find? key = some start) :
    ∃ order, Chronicle key start.document trace order := by
  induction run with
  | start => exact ⟨[], .start⟩
  | @step trace database after event run step inductionHypothesis =>
      obtain ⟨order, chronicle⟩ := inductionHypothesis undisturbed.of_append
      by_cases commits : ∃ commit, event.commit? = some commit ∧ commit.key = key
      · obtain ⟨commit, committed, addressed⟩ := commits
        obtain ⟨document, context, edit, id, receipt, folded, -, sameKey, asked, named, changed⟩ :=
          (run.step step).drafted_from_last
            (chronicle.reflects run undisturbed.of_append known)
            (chronicle.tracked run undisturbed.of_append known) committed addressed
        let turn : Turn := ⟨commit.caller, context, edit, id⟩
        have applied : turn.apply document = .ok commit.document := by
          unfold Turn.apply
          rw [changed]
          rfl
        exact ⟨order ++ [turn],
          .turn turn chronicle committed addressed rfl sameKey asked named folded applied⟩
      · refine ⟨order, .idle event chronicle ?_⟩
        intro commit committed addressed
        exact commits ⟨commit, committed, addressed⟩

end Chronicle

end Chronicles

end PipelineRegistry
