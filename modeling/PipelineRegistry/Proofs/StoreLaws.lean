import PipelineRegistry.Simulation.World

/-!
# Laws of the store

What a store answers to a call and what becomes of it. A call that is answered with an error changes
nothing, and one that is not concerns its own key only. Different counters have different tokens,
so presenting a token is as good as presenting the counter itself.
-/

namespace PipelineRegistry

open PipelineRegistry.Text

/-! ## Tokens -/

theorem Text.Decimal.ofInt_injective
    {left right : Int}
    (same : Decimal.ofInt left = Decimal.ofInt right) :
    left = right := by
  have signed {positive negative : Nat} :
      Decimal.digits positive ≠ '-' :: Decimal.digits negative := by
    intro impossible
    have member : '-' ∈ Decimal.digits positive := by
      rw [impossible]
      exact List.mem_cons_self
    have digit := Decimal.isDigit_of_mem_digits member
    revert digit
    decide
  cases left with
  | ofNat left =>
      cases right with
      | ofNat right =>
          have sameDigits := String.ofList_injective same
          rw [Decimal.digits_injective sameDigits]
      | negSucc right => exact absurd (String.ofList_injective same) signed
  | negSucc left =>
      cases right with
      | ofNat right => exact absurd (String.ofList_injective same).symm signed
      | negSucc right =>
          have sameDigits := (List.cons.inj (String.ofList_injective same)).2
          have sameSize := Decimal.digits_injective sameDigits
          rw [Nat.succ.inj sameSize]

theorem Version.ofCounter_inj {left right : Int} :
    Version.ofCounter left = Version.ofCounter right ↔ left = right := by
  constructor
  · intro same
    exact Text.Decimal.ofInt_injective (congrArg Version.token same)
  · intro same
    rw [same]

/-! ## Errors -/

/-- A store that answers with one of these errors has not done what it was
asked to do. A lost connection or a failed query leaves that open. -/
def StoreError.isRefusal : StoreError → Bool
  | connection _ | query _ _ => false
  | notFound _ | alreadyExists _ | conflict _ _ | serialization _ | invalidVersion _ => true

def CallError.isRefusal : CallError StoreError → Bool
  | failed error => error.isRefusal
  | interrupted _ => false

/-! ## Calls -/

namespace Store

/-- What becomes of a store on a call. -/
def after (store : Store) (call : StoreCall) : Store :=
  (Simulation.perform store call).1

/-- What a store answers to a call when nothing goes wrong on the way. -/
def answer (store : Store) (call : StoreCall) : Except (CallError StoreError) call.Answer :=
  (Simulation.perform store call).2.mapError .failed

/-- What becomes of a store when calls are made one after the other. -/
def afterAll (store : Store) (calls : List StoreCall) : Store :=
  calls.foldl after store

variable {store : Store} {key : PipelineKey} {document : PipelineDocument}
  {expected version : Version} {call : StoreCall} {failure : CallError StoreError}

theorem afterAll_append (store : Store) (earlier later : List StoreCall) :
    store.afterAll (earlier ++ later) = (store.afterAll earlier).afterAll later :=
  List.foldl_append

/-! ## Answers -/

theorem answer_of_ok
    {answered : call.Answer}
    (performed : (Simulation.perform store call).2 = .ok answered) :
    store.answer call = .ok answered := by
  unfold answer
  rw [performed]
  rfl

theorem answer_of_error
    {error : StoreError}
    (performed : (Simulation.perform store call).2 = .error error) :
    store.answer call = .error (.failed error) := by
  unfold answer
  rw [performed]
  rfl

theorem answer_eq_ok_iff {answered : call.Answer} :
    store.answer call = .ok answered ↔ (Simulation.perform store call).2 = .ok answered := by
  cases performed : (Simulation.perform store call).2 with
  | error error => simp [answer_of_error performed]
  | ok value => simp [answer_of_ok performed]

theorem answer_get_eq_ok_iff :
    store.answer (.get key) = .ok (document, version) ↔
      ∃ counter, store.find? key = some ⟨document, counter⟩ ∧ version = .ofCounter counter := by
  rw [answer_eq_ok_iff]
  cases known : store.find? key with
  | none => simp [Simulation.perform, get, known]
  | some stored =>
      obtain ⟨held, counter⟩ := stored
      simp only [Simulation.perform, get, known, Stored.version, Except.ok.injEq, Prod.mk.injEq,
        Option.some.injEq, Stored.mk.injEq]
      constructor
      · rintro ⟨rfl, rfl⟩
        exact ⟨counter, ⟨rfl, rfl⟩, rfl⟩
      · rintro ⟨_, ⟨rfl, rfl⟩, rfl⟩
        exact ⟨rfl, rfl⟩

theorem answer_update_eq_ok_iff :
    store.answer (.update key document expected) = .ok version ↔
      ∃ stored, store.find? key = some stored ∧ stored.version = expected ∧
        version = .ofCounter (stored.counter + 1) := by
  rw [answer_eq_ok_iff]
  cases known : store.find? key with
  | none => simp [Simulation.perform, update, known]
  | some stored =>
      by_cases current : stored.version = expected
      · simp only [Simulation.perform, update, known, current, ↓reduceIte, Except.ok.injEq,
          Option.some.injEq, exists_eq_left', true_and]
        exact eq_comm
      · simp [Simulation.perform, update, known, current]

theorem answer_update_of_stale
    {stored : Stored}
    (known : store.find? key = some stored) (stale : stored.version ≠ expected) :
    store.answer (.update key document expected) =
      .error (.failed (.conflict key expected)) := by
  apply answer_of_error
  simp [Simulation.perform, update, known, stale]

theorem answer_create_eq_ok_iff :
    store.answer (.create key) = .ok version ↔
      store.find? key = none ∧ version = Stored.initial.version := by
  rw [answer_eq_ok_iff]
  cases known : store.find? key with
  | none =>
      simp only [Simulation.perform, create, known, Except.ok.injEq, true_and]
      exact eq_comm
  | some stored => simp [Simulation.perform, create, known]

theorem answer_delete_eq_ok_iff {done : Unit} :
    store.answer (.delete key) = .ok done ↔ ∃ stored, store.find? key = some stored := by
  rw [answer_eq_ok_iff]
  cases known : store.find? key with
  | none => simp [Simulation.perform, delete, known]
  | some stored => simp [Simulation.perform, delete, known]

/-! ## Failures -/

/-- A store fails by refusing, and then it stays as it is. -/
theorem refused_of_perform_error
    {error : StoreError}
    (failed : (Simulation.perform store call).2 = .error error) :
    error.isRefusal = true ∧ store.after call = store := by
  cases call with
  | get key =>
      simp only [Simulation.perform, get] at failed
      split at failed
      · cases failed
      · cases failed
        exact ⟨rfl, rfl⟩
  | update key document expected =>
      cases written : store.update key document expected with
      | ok result => simp [Simulation.perform, written] at failed
      | error refusal =>
          simp only [Simulation.perform, written, Except.error.injEq] at failed
          subst failed
          refine ⟨?_, by simp [after, Simulation.perform, written]⟩
          unfold update at written
          split at written
          · cases written
            rfl
          · split at written
            · cases written
            · cases written
              rfl
  | create key =>
      cases known : store.find? key with
      | none => simp [Simulation.perform, create, known] at failed
      | some stored =>
          simp only [Simulation.perform, create, known, Except.error.injEq] at failed
          exact ⟨failed ▸ rfl, by simp [after, Simulation.perform, create, known]⟩
  | delete key =>
      cases known : store.find? key with
      | none =>
          simp only [Simulation.perform, delete, known, Except.error.injEq] at failed
          exact ⟨failed ▸ rfl, by simp [after, Simulation.perform, delete, known]⟩
      | some stored => simp [Simulation.perform, delete, known] at failed

theorem refused_of_answer_error (failed : store.answer call = .error failure) :
    failure.isRefusal = true ∧ store.after call = store := by
  cases performed : (Simulation.perform store call).2 with
  | ok answered =>
      rw [answer_of_ok performed] at failed
      cases failed
  | error error =>
      rw [answer_of_error performed] at failed
      cases failed
      exact refused_of_perform_error performed

theorem isRefusal_of_answer_error (failed : store.answer call = .error failure) :
    failure.isRefusal = true :=
  (refused_of_answer_error failed).1

theorem after_of_answer_error (failed : store.answer call = .error failure) :
    store.after call = store :=
  (refused_of_answer_error failed).2

/-! ## Effects -/

theorem find?_of_single
    {addressed : PipelineKey} {held stored : Stored}
    (found : (⟨[(addressed, held)]⟩ : Store).find? key = some stored) :
    key = addressed ∧ stored = held := by
  by_cases same : key = addressed
  · subst same
    simp only [Store.find?, List.lookup_cons_self, Option.some.injEq] at found
    exact ⟨rfl, found.symm⟩
  · have differs : (key == addressed) = false := by simpa using same
    simp [Store.find?, List.lookup_cons, differs] at found

theorem find?_after_update
    {stored : Stored} (document : PipelineDocument) (other : PipelineKey)
    (known : store.find? key = some stored) (current : stored.version = expected) :
    (store.after (.update key document expected)).find? other =
      if other = key then some ⟨document, stored.counter + 1⟩ else store.find? other := by
  simp [after, Simulation.perform, update, known, current, find?_insert]

theorem find?_after_create (other : PipelineKey) (absent : store.find? key = none) :
    (store.after (.create key)).find? other =
      if other = key then some .initial else store.find? other := by
  simp [after, Simulation.perform, create, absent, find?_insert]

theorem find?_after_delete (store : Store) (key other : PipelineKey) :
    (store.after (.delete key)).find? other =
      if other = key then none else store.find? other := by
  cases known : store.find? key with
  | none =>
      by_cases same : other = key
      · subst same
        simp [after, Simulation.perform, delete, known]
      · simp [after, Simulation.perform, delete, known, same]
  | some stored => simp [after, Simulation.perform, delete, known, find?_erase]

/-- All that a call can do to what is stored under a key. -/
theorem find?_after_cases (store : Store) (call : StoreCall) (key : PipelineKey) :
    (store.after call).find? key = store.find? key ∨
    (∃ document stored,
      call = .update key document stored.version ∧ store.find? key = some stored ∧
      (store.after call).find? key = some ⟨document, stored.counter + 1⟩) ∨
    (call = .create key ∧ store.find? key = none ∧
      (store.after call).find? key = some .initial) ∨
    (call = .delete key ∧ (store.after call).find? key = none) := by
  cases succeeded : store.answer call with
  | error failure => exact Or.inl (by rw [after_of_answer_error succeeded])
  | ok answered =>
      cases call with
      | get addressed => exact Or.inl rfl
      | update addressed document expected =>
          obtain ⟨stored, known, rfl, -⟩ := answer_update_eq_ok_iff.mp succeeded
          have found := find?_after_update document key known rfl
          by_cases same : key = addressed
          · subst same
            exact Or.inr (Or.inl ⟨document, stored, rfl, known, by rw [found, if_pos rfl]⟩)
          · exact Or.inl (by rw [found, if_neg same])
      | create addressed =>
          obtain ⟨absent, -⟩ := answer_create_eq_ok_iff.mp succeeded
          have found := find?_after_create key absent
          by_cases same : key = addressed
          · subst same
            exact Or.inr (Or.inr (Or.inl ⟨rfl, absent, by rw [found, if_pos rfl]⟩))
          · exact Or.inl (by rw [found, if_neg same])
      | delete addressed =>
          have found := store.find?_after_delete addressed key
          by_cases same : key = addressed
          · subst same
            exact Or.inr (Or.inr (Or.inr ⟨rfl, by rw [found, if_pos rfl]⟩))
          · exact Or.inl (by rw [found, if_neg same])

/-! ## Counters -/

/-- What is stored under a key has a counter from one to a bound. -/
def CountsWithin (store : Store) (key : PipelineKey) (bound : Nat) : Prop :=
  ∀ stored, store.find? key = some stored → 1 ≤ stored.counter ∧ stored.counter ≤ bound

theorem CountsWithin.after
    {bound : Nat} (within : store.CountsWithin key bound) (call : StoreCall) :
    (store.after call).CountsWithin key (bound + 1) := by
  intro stored found
  rcases store.find?_after_cases call key with
    kept | ⟨document, held, -, known, written⟩ | ⟨-, -, created⟩ | ⟨-, deleted⟩
  · rw [kept] at found
    have known := within stored found
    omega
  · have before := within held known
    rw [written, Option.some.injEq] at found
    subst found
    simp only
    omega
  · rw [created, Option.some.injEq] at found
    subst found
    simp only [Stored.initial]
    omega
  · rw [deleted] at found
    cases found

theorem CountsWithin.afterAll
    {bound : Nat} (within : store.CountsWithin key bound) (calls : List StoreCall) :
    (store.afterAll calls).CountsWithin key (bound + calls.length) := by
  induction calls generalizing store bound with
  | nil => exact within
  | cons call later inductionHypothesis =>
      have whole := inductionHypothesis (within.after call)
      rw [Nat.add_assoc, Nat.add_comm 1] at whole
      exact whole

/-- In a store that calls have made of an empty one, no counter is larger than their number. -/
theorem countsWithin_length (calls : List StoreCall) (key : PipelineKey) :
    (afterAll {} calls).CountsWithin key calls.length := by
  have nothing : (({} : Store)).CountsWithin key 0 := by
    intro stored found
    cases found
  have whole := nothing.afterAll calls
  rw [Nat.zero_add] at whole
  exact whole

end Store

end PipelineRegistry
