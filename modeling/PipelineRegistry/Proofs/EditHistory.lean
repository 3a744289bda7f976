import PipelineRegistry.Proofs.AttemptHistory

/-!
# Histories of edits

An edit asks for an id if it makes a new entity, then attempts its change, then makes its notices.
What is known of the writes of its attempts is therefore known of all its writes.
-/

namespace PipelineRegistry

/-! ## Places in a list -/

section Places

variable {β : Type} {middle : β} {front back before after : List β}

theorem split_behind
    (absent : middle ∉ front)
    (split : front ++ back = before ++ middle :: after) :
    ∃ between, before = front ++ between ∧ back = between ++ middle :: after := by
  rcases List.append_eq_append_iff.mp split with
    ⟨between, rfl, same⟩ | ⟨between, rfl, same⟩
  · exact ⟨between, rfl, same⟩
  · cases between with
    | nil => exact ⟨[], by simp, by simpa using same.symm⟩
    | cons first rest =>
        injection same with same _
        subst same
        exact absurd (List.mem_append_right before (List.Mem.head rest)) absent

theorem split_ahead
    (absent : middle ∉ back)
    (split : front ++ back = before ++ middle :: after) :
    ∃ between, front = before ++ middle :: between ∧ after = between ++ back := by
  rcases List.append_eq_append_iff.mp split with
    ⟨between, rfl, rfl⟩ | ⟨between, rfl, same⟩
  · exact absurd (List.mem_append_right between (List.Mem.head after)) absent
  · cases between with
    | nil =>
        simp only [List.nil_append] at same
        subst same
        exact absurd (List.Mem.head after) absent
    | cons first rest =>
        injection same with same tail
        subst same
        exact ⟨rest, rfl, tail⟩

theorem append_singleton_cases
    {list : List β} {last : β}
    (split : list ++ [last] = front ++ back) :
    (front = list ++ [last] ∧ back = []) ∨
      ∃ between, list = front ++ between ∧ back = between ++ [last] := by
  rcases List.eq_nil_or_concat back with rfl | ⟨between, final, rfl⟩
  · exact Or.inl ⟨by simpa using split.symm, rfl⟩
  · have split : list ++ [last] = (front ++ between) ++ [final] := by simpa using split
    obtain ⟨rfl, same⟩ := List.append_inj' split rfl
    cases same
    exact Or.inr ⟨between, rfl, by simp⟩

end Places

/-! ## New ids -/

def newId (history : List Exchange) : String :=
  (history.findSome? Exchange.issued?).getD ""

namespace Edit

/-- These exchanges give an edit its new id, if it needs one. -/
def Named (edit : Edit) (id : String) (naming : List Exchange) : Prop :=
  if edit.isCreation then naming = [⟨.freshId, id⟩] else naming = [] ∧ id = ""

theorem Named.of_creation
    {edit : Edit} (creates : edit.isCreation = true) (id : String) :
    edit.Named id [⟨.freshId, id⟩] := by
  unfold Named
  rw [if_pos creates]

theorem Named.of_not_creation
    {edit : Edit} (changes : edit.isCreation = false) :
    edit.Named "" [] := by
  unfold Named
  rw [changes]
  exact ⟨rfl, rfl⟩

theorem Named.isWrite
    {edit : Edit} {id : String} {naming : List Exchange}
    (named : edit.Named id naming) :
    ∀ exchange ∈ naming, exchange.isWrite = false := by
  unfold Named at named
  split at named
  · subst named
    simp [Exchange.isWrite]
  · obtain ⟨rfl, _⟩ := named
    simp

/-- The new id of a history is known as soon as there is any exchange. -/
theorem Named.newId_eq
    {edit : Edit} {id : String} {naming : List Exchange}
    (named : edit.Named id naming) (creates : edit.isCreation = true)
    (rest : List Exchange) :
    newId (naming ++ rest) = id := by
  unfold Named at named
  rw [if_pos creates] at named
  subst named
  rfl

/-- Only a new entity has use for a new id. -/
theorem change_eq_of_not_isCreation
    {edit : Edit} (changes : edit.isCreation = false) (context : Context)
    (left right : String) :
    edit.change context left = edit.change context right := by
  cases edit with
  | createSource source => cases changes
  | createRule rule => cases changes
  | createExtension extension => cases changes
  | createFunction function => cases changes
  | _ => rfl

theorem yields_nameNew
    {edit : Edit} {naming : List Exchange} {result : Except RegistryError String}
    (yields : Operation.Yields edit.nameNew naming result) :
    ∃ id, edit.Named id naming ∧ result = .ok id := by
  unfold nameNew at yields
  unfold Named
  split at yields
  · obtain ⟨id, rfl, rfl⟩ := Operation.yields_request_iff.mp yields
    exact ⟨id, by simp [*], rfl⟩
  · obtain ⟨rfl, rfl⟩ := Operation.yields_pure_iff.mp yields
    exact ⟨"", by simp [*], rfl⟩

/-! ## Notices -/

theorem yields_notify
    {context : Context} {effect : SideEffect} {call : ServiceCall}
    {history : List Exchange} {result : Except RegistryError (List SideEffectError)}
    (yields : Operation.Yields (Registry.notify context effect call) history result) :
    (∃ failures, result = .ok failures) ∧ ∀ exchange ∈ history, exchange.isWrite = false := by
  unfold Registry.notify at yields
  rw [Operation.yields_request_bind_iff] at yields
  obtain ⟨failure | answer, rest, rfl, yields⟩ := yields
  · obtain ⟨behind, rfl, ended⟩ := Registry.yields_count_bind_iff.mp yields
    obtain ⟨rfl, rfl⟩ := Operation.yields_pure_iff.mp ended
    refine ⟨⟨_, rfl⟩, ?_⟩
    simp only [List.mem_cons, List.not_mem_nil, or_false, forall_eq_or_imp, forall_eq]
    exact ⟨rfl, rfl⟩
  · obtain ⟨rfl, rfl⟩ := Operation.yields_pure_iff.mp yields
    exact ⟨⟨_, rfl⟩, by simp [Exchange.isWrite]⟩

/-- Notices never fail an edit, and they write nothing. -/
theorem yields_notifyAll
    {context : Context} {notices : List Notice} {history : List Exchange}
    {result : Except RegistryError (List SideEffectError)}
    (yields : Operation.Yields (notifyAll context notices) history result) :
    (∃ failures, result = .ok failures) ∧ ∀ exchange ∈ history, exchange.isWrite = false := by
  induction notices generalizing history result with
  | nil =>
      obtain ⟨rfl, rfl⟩ := Operation.yields_pure_iff.mp yields
      exact ⟨⟨[], rfl⟩, by simp⟩
  | cons notice rest inductionHypothesis =>
      rw [notifyAll, Operation.yields_bind_iff] at yields
      rcases yields with ⟨error, first, rfl⟩ | ⟨earlier, later, failures, rfl, first, yields⟩
      · obtain ⟨⟨_, impossible⟩, _⟩ := yields_notify first
        cases impossible
      rw [Operation.yields_bind_iff] at yields
      rcases yields with ⟨error, second, rfl⟩ | ⟨middle, last, more, rfl, second, ended⟩
      · obtain ⟨⟨_, impossible⟩, _⟩ := inductionHypothesis second
        cases impossible
      obtain ⟨rfl, rfl⟩ := Operation.yields_pure_iff.mp ended
      refine ⟨⟨_, rfl⟩, ?_⟩
      intro exchange member
      simp only [List.append_nil, List.mem_append] at member
      rcases member with member | member
      · exact (yields_notify first).2 exchange member
      · exact (inductionHypothesis second).2 exchange member

/-! ## Whole edits -/

/-- The three parts of the history of an edit, as far as it comes. -/
theorem yields_operation
    {context : Context} {edit : Edit} {history : List Exchange}
    {result : Except RegistryError MutationOutcome}
    (yields : Operation.Yields (edit.operation context) history result) :
    (∃ error, edit.check = .error error ∧ history = [] ∧ result = .error error) ∨
    ∃ id naming attempts notices outcome,
      edit.Named id naming ∧
      Attempts context edit.mutation (edit.change context id) 1
        (context.settings.retryPolicy.maxAttempts.toNat - 1) attempts outcome ∧
      history = naming ++ attempts ++ notices ∧
      (∀ exchange ∈ notices, exchange.isWrite = false) ∧
      ((∃ error, outcome = .error error ∧ notices = [] ∧ result = .error error) ∨
        ∃ receipt failures,
          outcome = .ok receipt ∧
          Operation.Yields (notifyAll context receipt.notices) notices (.ok failures) ∧
          result = .ok ⟨receipt.id, failures⟩) := by
  rw [operation_eq, perform, Operation.yields_bind_iff] at yields
  rcases yields with ⟨error, checked, rfl⟩ | ⟨none, later, checked, rfl, passed, yields⟩
  · obtain ⟨rfl, same⟩ := Operation.yields_ofExcept_iff.mp checked
    exact Or.inl ⟨error, same.symm, rfl, rfl⟩
  obtain ⟨rfl, -⟩ := Operation.yields_ofExcept_iff.mp passed
  apply Or.inr
  rw [Operation.yields_bind_iff] at yields
  rcases yields with ⟨error, naming, rfl⟩ | ⟨naming, behind, id, rfl, naming', yields⟩
  · obtain ⟨_, _, impossible⟩ := yields_nameNew naming
    cases impossible
  obtain ⟨given, named, same⟩ := yields_nameNew naming'
  cases same
  rw [Operation.yields_bind_iff] at yields
  rcases yields with ⟨error, attempted, rfl⟩ | ⟨attempts, notices, receipt, rfl, attempted, yields⟩
  · exact ⟨id, naming, behind, [], .error error, named,
      Registry.attempts_of_yields attempted, by simp, by simp,
      Or.inl ⟨error, rfl, rfl, rfl⟩⟩
  · rw [Operation.yields_bind_iff] at yields
    rcases yields with ⟨error, notified, rfl⟩ | ⟨made, last, failures, rfl, notified, ended⟩
    · obtain ⟨⟨_, impossible⟩, _⟩ := yields_notifyAll notified
      cases impossible
    obtain ⟨rfl, rfl⟩ := Operation.yields_pure_iff.mp ended
    refine ⟨id, naming, attempts, made, .ok receipt, named,
      Registry.attempts_of_yields attempted, by simp, (yields_notifyAll notified).2,
      Or.inr ⟨receipt, failures, rfl, notified, rfl⟩⟩

/-- An edit whose fields do not pass the check asks nothing of anyone. -/
theorem check_of_yields
    {context : Context} {edit : Edit} {history : List Exchange}
    {result : Except RegistryError MutationOutcome}
    (yields : Operation.Yields (edit.operation context) history result) (begun : history ≠ []) :
    edit.check = .ok () := by
  cases checked : edit.check with
  | ok passed => rfl
  | error error =>
      rw [operation_eq, perform, checked, Operation.yields_bind_iff] at yields
      rcases yields with ⟨_, failed, -⟩ | ⟨_, _, _, -, impossible, -⟩
      · exact absurd (Operation.yields_ofExcept_iff.mp failed).1 begun
      · cases (Operation.yields_ofExcept_iff.mp impossible).2

theorem yields_of_named
    {edit : Edit} {id : String} {naming : List Exchange} (named : edit.Named id naming) :
    Operation.Yields edit.nameNew naming (.ok id) := by
  unfold Named at named
  unfold nameNew
  split at named
  · subst named
    rw [if_pos ‹_›]
    exact Operation.yields_request_iff.mpr ⟨id, rfl, rfl⟩
  · obtain ⟨rfl, rfl⟩ := named
    rw [if_neg ‹_›]
    exact Operation.yields_pure_iff.mpr ⟨rfl, rfl⟩

theorem yields_of_attempts
    {context : Context} {edit : Edit} {id : String} {naming attempts notices : List Exchange}
    {receipt : Receipt} {failures : List SideEffectError}
    (checked : edit.check = .ok ()) (named : edit.Named id naming)
    (attempted : Attempts context edit.mutation (edit.change context id) 1
      (context.settings.retryPolicy.maxAttempts.toNat - 1) attempts (.ok receipt))
    (notified : Operation.Yields (notifyAll context receipt.notices) notices (.ok failures)) :
    Operation.Yields (edit.operation context) (naming ++ (attempts ++ notices))
      (.ok ⟨receipt.id, failures⟩) := by
  rw [operation_eq, perform, Operation.yields_bind_iff]
  refine Or.inr ⟨[], _, (), rfl, Operation.yields_ofExcept_iff.mpr ⟨rfl, checked.symm⟩, ?_⟩
  rw [Operation.yields_bind_iff]
  refine Or.inr ⟨naming, _, id, rfl, yields_of_named named, ?_⟩
  rw [Operation.yields_bind_iff]
  refine Or.inr ⟨attempts, _, receipt, rfl, Registry.yields_of_attempts attempted, ?_⟩
  rw [Operation.yields_bind_iff]
  exact Or.inr ⟨notices, [], failures, (List.append_nil _).symm, notified,
    Operation.yields_pure_iff.mpr ⟨rfl, rfl⟩⟩

theorem yields_of_failed_attempts
    {context : Context} {edit : Edit} {id : String} {naming attempts : List Exchange}
    {error : RegistryError}
    (checked : edit.check = .ok ()) (named : edit.Named id naming)
    (attempted : Attempts context edit.mutation (edit.change context id) 1
      (context.settings.retryPolicy.maxAttempts.toNat - 1) attempts (.error error)) :
    Operation.Yields (edit.operation context) (naming ++ attempts) (.error error) := by
  rw [operation_eq, perform, Operation.yields_bind_iff]
  refine Or.inr ⟨[], _, (), rfl, Operation.yields_ofExcept_iff.mpr ⟨rfl, checked.symm⟩, ?_⟩
  rw [Operation.yields_bind_iff]
  refine Or.inr ⟨naming, attempts, id, rfl, yields_of_named named, ?_⟩
  rw [Operation.yields_bind_iff]
  exact Or.inl ⟨error, Registry.yields_of_attempts attempted, rfl⟩

theorem yields_without_notices
    {context : Context} (edit : Edit) (id : String) {given : String}
    {naming attempts : List Exchange}
    (checked : edit.check = .ok ()) (named : edit.Named given naming)
    (attempted : Attempts context edit.mutation (edit.change context given) 1
      (context.settings.retryPolicy.maxAttempts.toNat - 1) attempts (.ok ⟨id, []⟩)) :
    Operation.Yields (edit.operation context) (naming ++ attempts) (.ok ⟨id, []⟩) := by
  have silent : Operation.Yields (notifyAll context []) [] (.ok []) :=
    Operation.yields_pure_iff.mpr ⟨rfl, rfl⟩
  have yields := yields_of_attempts checked named attempted silent
  rw [List.append_nil] at yields
  exact yields

/-! ## The writes of an edit -/

/-- How a write comes about: the document was read right before it, the edit
was applied to what was read, and nothing earlier can have been stored. -/
inductive Drafted (context : Context) (edit : Edit) (before : List Exchange)
    (written : PipelineDocument) (version : Version) : Prop
  | intro (earlier : List Exchange) (document : PipelineDocument) (receipt : Receipt)
      (read : before = earlier ++ [.load context (.ok (document, version))])
      (changed : edit.change context (newId before) document = .ok (written, receipt))
      (named : edit.isCreation = true → ⟨.freshId, newId before⟩ ∈ before)
      (harmless : ∀ exchange ∈ earlier, exchange.mayStore = false)

/-- What an edit with a given new id writes is what it writes with the new id
of its history. -/
theorem Named.change_eq
    {edit : Edit} {id : String} {naming : List Exchange}
    (named : edit.Named id naming) (context : Context) (rest : List Exchange) :
    edit.change context (newId (naming ++ rest)) = edit.change context id := by
  cases creates : edit.isCreation with
  | true => rw [named.newId_eq creates]
  | false => exact change_eq_of_not_isCreation creates context _ _

theorem Named.mem
    {edit : Edit} {id : String} {naming : List Exchange}
    (named : edit.Named id naming) (creates : edit.isCreation = true)
    (rest : List Exchange) :
    ⟨.freshId, newId (naming ++ rest)⟩ ∈ naming ++ rest := by
  rw [named.newId_eq creates]
  unfold Named at named
  rw [if_pos creates] at named
  subst named
  exact List.Mem.head rest

theorem drafted_of_write
    {context : Context} {edit : Edit} {history before after : List Exchange}
    {result : Except RegistryError MutationOutcome} {bound : Bound} {key : PipelineKey}
    {written : PipelineDocument} {version : Version}
    {answer : Except (CallError StoreError) Version}
    (yields : Operation.Yields (edit.operation context) history result)
    (split :
      history = before ++ ⟨.store bound (.update key written version), answer⟩ :: after) :
    key = context.key ∧ Drafted context edit before written version := by
  rcases yields_operation yields with
    ⟨error, _, rfl, _⟩ |
    ⟨id, naming, attempts, notices, outcome, named, attempted, rfl, quiet, _⟩
  · simp at split
  have unnoticed :
      (⟨.store bound (.update key written version), answer⟩ : Exchange) ∉ notices := by
    intro member
    have impossible := quiet _ member
    cases impossible
  have unnamed :
      (⟨.store bound (.update key written version), answer⟩ : Exchange) ∉ naming := by
    intro member
    have impossible := named.isWrite _ member
    cases impossible
  obtain ⟨between, ahead, rfl⟩ := split_ahead unnoticed split
  obtain ⟨earlier, rfl, place⟩ := split_behind unnamed ahead
  obtain ⟨sameKey, first, document, receipt, rfl, changed, harmless⟩ :=
    attempted.drafted_of_write place
  refine ⟨sameKey, naming ++ first, document, receipt, by simp, ?_, ?_, ?_⟩
  · rw [named.change_eq]
    exact changed
  · intro creates
    exact named.mem creates _
  · intro exchange member
    rcases List.mem_append.mp member with member | member
    · exact Exchange.mayStore_of_not_isWrite (named.isWrite exchange member)
    · exact harmless exchange member

/-- An edit that succeeds has written, and the store has said so or was found
to hold what was written. -/
theorem write_of_ok
    {context : Context} {edit : Edit} {history : List Exchange} {outcome : MutationOutcome}
    (yields : Operation.Yields (edit.operation context) history (.ok outcome)) :
    ∃ before version written answer after,
      history = before ++ .write context written version answer :: after ∧
      ((∃ later, answer = .ok later) ∨
        ∃ cause later behind,
          answer = .error (.interrupted cause) ∧
          after = .reread context (.ok (written, later)) :: behind) := by
  rcases yields_operation yields with
    ⟨error, _, _, impossible⟩ |
    ⟨id, naming, attempts, notices, attemptResult, named, attempted, rfl, quiet, ended⟩
  · cases impossible
  rcases ended with ⟨error, _, _, impossible⟩ | ⟨receipt, failures, rfl, _, _⟩
  · cases impossible
  obtain ⟨earlier, document, version, written, answer, rest, rfl, changed, landed⟩ :=
    attempted.write_of_ok
  refine ⟨naming ++ earlier ++ [.load context (.ok (document, version))], version, written,
    answer, rest ++ notices, by simp, ?_⟩
  rcases landed with stored | ⟨cause, later, behind, lost, rfl⟩
  · exact Or.inl stored
  · exact Or.inr ⟨cause, later, behind ++ notices, lost, rfl⟩

/-- When an edit fails, the store has not said of any write that it was stored.
Unless the error is a failed dependency, it has refused all of them. -/
theorem refused_of_error
    {context : Context} {edit : Edit} {history : List Exchange} {error : RegistryError}
    (yields : Operation.Yields (edit.operation context) history (.error error)) :
    ∀ exchange ∈ history,
      exchange.isStored = false ∧
        (error.kind ≠ .dependencyFailure → exchange.mayStore = false) := by
  rcases yields_operation yields with
    ⟨failure, _, rfl, _⟩ |
    ⟨id, naming, attempts, notices, attemptResult, named, attempted, rfl, quiet, ended⟩
  · simp
  rcases ended with ⟨failure, rfl, rfl, same⟩ | ⟨receipt, failures, _, _, impossible⟩
  · cases same
    intro exchange member
    simp only [List.append_nil, List.mem_append] at member
    rcases member with member | member
    · have unwritten := named.isWrite exchange member
      exact ⟨Exchange.isStored_of_not_isWrite unwritten,
        fun _ => Exchange.mayStore_of_not_isWrite unwritten⟩
    · exact attempted.refused_of_error exchange member
  · cases impossible

end Edit

end PipelineRegistry
