import PipelineRegistry.Proofs.FreshIds

/-!
# Outcomes tell the truth

What the caller of an edit is told agrees with what has become of its writes, even when answers are
lost and others write at any time. Success means that the document was there; for a creation it also
means that nobody else wrote it, because only a commit of the caller can bring its new id into the
store. An error that is not a failed dependency means that nothing was or ever will be written.
-/

namespace PipelineRegistry

/-- The stored document is what a caller has made of the document that it read in
the attempt it is in, and if it has made a new entity then the document is there
by its own commit. -/
inductive TookEffect (initial : Store) (caller : Nat) (context : Context) (edit : Edit)
    (instant : List Event) : Prop
  | intro (id : String) (document written : PipelineDocument) (version : Version)
      (receipt : Receipt) (counter : Int) (answer : Except (CallError StoreError) Version)
      (earlier later : List Event)
      (read : instant =
        earlier ++ .exchanged caller (.load context (.ok (document, version))) :: later)
      (attempted : historyOf caller later = [.write context written version answer])
      (changed : edit.change context id document = .ok (written, receipt))
      (named : edit.isCreation = true → .exchanged caller ⟨.freshId, id⟩ ∈ earlier)
      (present : (initial.replay instant).find? context.key = some ⟨written, counter⟩)
      (committed : edit.isCreation = true →
        ⟨caller, context.key, written, version⟩ ∈ commits instant)

/-- What a caller is told agrees with what has become of its writes. -/
structure Truthful (initial : Store) (trace : List Event) (caller : Nat) (context : Context)
    (edit : Edit) : Prop where
  succeeded : ∀ reply, .returned caller (.ok reply) ∈ trace →
    ∃ instant after,
      trace = instant ++ after ∧ During caller context (.edit edit) instant ∧
        TookEffect initial caller context edit instant
  refused : ∀ error, .returned caller (.error error) ∈ trace →
    error.kind ≠ .dependencyFailure → ∀ commit ∈ commits trace, commit.caller ≠ caller
  once : (commits trace).countP (·.caller = caller) ≤ 1
  drafted : ∀ before event after commit,
    trace = before ++ event :: after → event.commit? = some commit → commit.caller = caller →
    commit.key = context.key ∧
      ∃ earlier, earlier <+: before ∧
        Draft initial caller context edit earlier commit.document commit.version

variable {reliability : Reliability} {initial : Store} {final : Database}
  {trace before later behind : List Event} {caller : Nat} {context : Context} {edit : Edit}
  {written : PipelineDocument} {version : Version}
  {answer : Except (CallError StoreError) Version} {counter : Int}

namespace Run

/-- When the document of a write is found in the store before its caller has done
anything else, the write has taken effect, unless somebody else has written the
same. Nobody else can have done so if the document holds a new id. -/
theorem tookEffect_of_present
    {instant : List Event}
    (run : Run reliability initial instant final) (fresh : FreshIds initial instant)
    (attempted :
      instant = before ++ .exchanged caller (.write context written version answer) :: later)
    (asked : .invoked caller context (.edit edit) ∈ before)
    (stores : (Exchange.write context written version answer).mayStore = true)
    (idle : historyOf caller later = [])
    (present : (initial.replay instant).find? context.key = some ⟨written, counter⟩) :
    TookEffect initial caller context edit instant := by
  have whole := run
  rw [attempted] at whole
  obtain ⟨draftedContext, draftedEdit, -, draft⟩ := whole.draft
  obtain ⟨rfl, same⟩ := whole.asked_unique (List.mem_append_left _ asked)
    (List.mem_append_left _ draft.asked_before)
  cases same
  obtain ⟨id, document, _, receipt, earlier, between, -, rfl, -, -, idleBetween, changed, named,
    -⟩ := draft
  refine ⟨id, document, written, version, receipt, counter, answer, earlier,
    between ++ .exchanged caller (.write context written version answer) :: later,
    by simp [attempted], ?_, changed, named, present, ?_⟩
  · rw [historyOf_append, historyOf_cons_exchanged, idleBetween, idle]
    rfl
  · intro creates
    have issued : .exchanged caller ⟨.freshId, id⟩ ∈ instant := by
      rw [attempted]
      exact List.mem_append_left _ (List.mem_append_left _ (named creates))
    have occurs := Occurs.of_holds
      ⟨context.key, ⟨written, counter⟩, present, Edit.newId_mem creates changed⟩
    obtain ⟨commit, committed, sameCaller⟩ := run.commit_of_occurs fresh occurs issued
    have member : .exchanged caller (.write context written version answer) ∈ instant := by
      rw [attempted]
      simp
    obtain rfl := run.commit_eq_of_mayStore member stores committed sameCaller
    exact committed

/-- Success means that the document was stored in the course of the call. -/
theorem tookEffect_of_ok
    {reply : Reply}
    (run : Run reliability initial trace final) (fresh : FreshIds initial trace)
    (asked : .invoked caller context (.edit edit) ∈ trace)
    (returned : .returned caller (.ok reply) ∈ trace) :
    ∃ instant after,
      trace = instant ++ after ∧ During caller context (.edit edit) instant ∧
        TookEffect initial caller context edit instant := by
  obtain ⟨result, edited, same⟩ := Operation.yields_map_iff.mp (run.yields asked returned)
  cases result with
  | error error => cases same
  | ok outcome =>
      obtain ⟨earlier, version, written, answer, rest, split, landed⟩ := Edit.write_of_ok edited
      obtain ⟨before, after, rfl, rfl, rfl⟩ := historyOf_split split
      have during := run.during_of_exchanged asked
      rcases landed with ⟨token, rfl⟩ | ⟨cause, token, others, rfl, reread⟩
      · have committed : (Event.exchanged caller
            (.write context written version (.ok token))).commit? =
              some ⟨caller, context.key, written, version⟩ :=
          rfl
        obtain ⟨stored, -, -, present⟩ := run.find?_of_commit committed
        rw [List.append_cons] at run fresh ⊢
        obtain ⟨database, runNow⟩ := run.exists_of_append
        refine ⟨_, after, rfl, ⟨List.mem_append_left _ during.1, ?_⟩,
          runNow.tookEffect_of_present fresh.of_append rfl during.1 rfl rfl present⟩
        intro result member
        rcases List.mem_append.mp member with member | member
        · exact during.2 result member
        · cases List.mem_singleton.mp member
      · obtain ⟨between, rest, rfl, idle, -⟩ := historyOf_split_cons reread
        rw [← List.cons_append, ← List.append_assoc] at run fresh asked ⊢
        obtain ⟨counter, present, -⟩ := run.current_of_get
        obtain ⟨database, runNow⟩ := run.exists_of_append
        exact ⟨_, _, rfl, run.during_of_exchanged asked,
          runNow.tookEffect_of_present fresh.of_append rfl during.1 rfl idle present⟩

theorem caller_ne_of_known_error
    {error : RegistryError}
    (run : Run reliability initial trace final)
    (asked : .invoked caller context (.edit edit) ∈ trace)
    (returned : .returned caller (.error error) ∈ trace)
    (known : error.kind ≠ .dependencyFailure) :
    ∀ commit ∈ commits trace, commit.caller ≠ caller := by
  obtain ⟨result, edited, same⟩ := Operation.yields_map_iff.mp (run.yields asked returned)
  cases result with
  | ok outcome => cases same
  | error failure =>
      cases same
      apply run.caller_ne_of_harmless
      intro exchange member
      exact (Edit.refused_of_error edited exchange member).2 known

/-- A creation that was told of success has committed before, and does not commit
again. -/
theorem caller_ne_of_returned_ok
    {event : Event} {commit : Commit} {reply : Reply}
    (run : Run reliability initial (trace ++ [event]) final) (fresh : FreshIds initial trace)
    (asked : .invoked caller context (.edit edit) ∈ trace) (creates : edit.isCreation = true)
    (returned : .returned caller (.ok reply) ∈ trace) (committed : event.commit? = some commit) :
    commit.caller ≠ caller := by
  rintro rfl
  obtain ⟨database, runBefore⟩ := run.exists_of_append
  obtain ⟨instant, after, rfl, -, tookEffect⟩ := runBefore.tookEffect_of_ok fresh asked returned
  obtain ⟨_, _, _, _, _, _, _, _, _, _, _, _, _, _, first⟩ := tookEffect
  have former : 0 < (commits instant).countP (·.caller = commit.caller) :=
    List.countP_pos_iff.mpr ⟨_, first creates, by simp⟩
  have latest : (commits [event]).countP (·.caller = commit.caller) = 1 := by
    simp [commits_singleton, committed]
  have bound := run.countP_commits_le_one commit.caller
  simp only [commits_append, List.countP_append] at bound
  omega

/-- Whatever a caller commits is what its edit has made of a document that was
stored when the caller read it. -/
theorem draft_of_asked
    {event : Event} {commit : Commit}
    (run : Run reliability initial (before ++ event :: behind) final)
    (asked : .invoked caller context (.edit edit) ∈ before ++ event :: behind)
    (committed : event.commit? = some commit) (sameCaller : commit.caller = caller) :
    commit.key = context.key ∧
      ∃ earlier, earlier <+: before ∧
        Draft initial caller context edit earlier commit.document commit.version := by
  subst sameCaller
  obtain ⟨draftedContext, draftedEdit, earlier, addressed, former, draft⟩ :=
    run.draft_of_commit committed
  obtain ⟨rfl, same⟩ :=
    run.asked_unique asked (List.mem_append_left _ (former.subset draft.asked_before))
  cases same
  exact ⟨addressed.symm, earlier, former, draft⟩

end Run

/-- However a store fails its callers, the callers of edits are told the truth. -/
theorem truthful
    (run : Run reliability initial trace final) (fresh : FreshIds initial trace)
    (asked : .invoked caller context (.edit edit) ∈ trace) :
    Truthful initial trace caller context edit where
  succeeded := fun _ returned => run.tookEffect_of_ok fresh asked returned
  refused := fun _ returned known => run.caller_ne_of_known_error asked returned known
  once := run.countP_commits_le_one caller
  drafted := by
    rintro before event after commit rfl committed sameCaller
    exact run.draft_of_asked asked committed sameCaller

theorem truthful_lostAnswer :
    (Run .faulty LostAnswer.initial LostAnswer.trace { store := LostAnswer.final } ∧
      FreshIds LostAnswer.initial LostAnswer.trace ∧
      .invoked 0 LostAnswer.context (.edit LostAnswer.edit) ∈ LostAnswer.trace) ∧
    Truthful LostAnswer.initial LostAnswer.trace 0 LostAnswer.context LostAnswer.edit := by
  have asked : .invoked 0 LostAnswer.context (.edit LostAnswer.edit) ∈ LostAnswer.trace :=
    List.mem_cons_self
  exact ⟨⟨LostAnswer.run, LostAnswer.freshIds, asked⟩,
    truthful LostAnswer.run LostAnswer.freshIds asked⟩

end PipelineRegistry
