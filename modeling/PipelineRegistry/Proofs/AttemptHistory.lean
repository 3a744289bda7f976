import PipelineRegistry.Proofs.Edit
import PipelineRegistry.Proofs.StoreLaws

/-!
# Histories of attempts

The complete histories of a change that is attempted form a small grammar: any number of rounds in
which another writer was faster, and one of eight endings. Two things are read off the grammar. A
write is always drafted from what was read right before it, and nothing that was written earlier can
have been stored. And the result tells what became of the last write, as far as it can be known.
-/

namespace PipelineRegistry

/-! ## Kinds of exchanges -/

/-- A document is read although its request may have been cancelled. -/
def Request.isReread : Request → Bool
  | store bound (.get _) => !bound.heedsCancellation
  | _ => false

namespace Exchange

/-- A document was to be written. -/
def isWrite : Exchange → Bool
  | ⟨.store _ (.update _ _ _), _⟩ => true
  | _ => false

def isStored : Exchange → Bool
  | ⟨.store _ (.update _ _ _), .ok _⟩ => true
  | _ => false

/-- A document may have been written: the store has not refused it. -/
def mayStore : Exchange → Bool
  | ⟨.store _ (.update _ _ _), .ok _⟩ => true
  | ⟨.store _ (.update _ _ _), .error failure⟩ => !failure.isRefusal
  | _ => false

def isReread (exchange : Exchange) : Bool :=
  exchange.request.isReread

/-- The id that was given out. -/
def issued? : Exchange → Option String
  | ⟨.freshId, id⟩ => some id
  | _ => none

section Shapes

variable (context : Context)

def load (answer : Except (CallError StoreError) (PipelineDocument × Version)) : Exchange :=
  ⟨.store context.settings.bound (.get context.key), answer⟩

/-- The document of a pipeline is read again after a write without an answer. -/
def reread (answer : Except (CallError StoreError) (PipelineDocument × Version)) : Exchange :=
  ⟨.store context.settings.unheedingBound (.get context.key), answer⟩

def write (document : PipelineDocument) (expected : Version)
    (answer : Except (CallError StoreError) Version) : Exchange :=
  ⟨.store context.settings.bound (.update context.key document expected), answer⟩

def pause (number : Nat) (finished : Bool) : Exchange :=
  ⟨.pause (context.settings.retryPolicy.interval number), finished⟩

end Shapes

def counted (counter : Counter) : Exchange :=
  ⟨.count counter, ()⟩

section Shapes

variable {context : Context}

@[simp]
theorem isWrite_load
    (answer : Except (CallError StoreError) (PipelineDocument × Version)) :
    (load context answer).isWrite = false :=
  rfl

@[simp]
theorem isWrite_reread
    (answer : Except (CallError StoreError) (PipelineDocument × Version)) :
    (reread context answer).isWrite = false :=
  rfl

@[simp]
theorem isWrite_pause (number : Nat) (finished : Bool) :
    (pause context number finished).isWrite = false :=
  rfl

@[simp]
theorem isWrite_counted (counter : Counter) : (counted counter).isWrite = false :=
  rfl

@[simp]
theorem isReread_load
    (answer : Except (CallError StoreError) (PipelineDocument × Version)) :
    (load context answer).isReread = false :=
  rfl

@[simp]
theorem isReread_reread
    (answer : Except (CallError StoreError) (PipelineDocument × Version)) :
    (reread context answer).isReread = true :=
  rfl

@[simp]
theorem isReread_write
    (document : PipelineDocument) (expected : Version)
    (answer : Except (CallError StoreError) Version) :
    (write context document expected answer).isReread = false :=
  rfl

@[simp]
theorem isReread_pause (number : Nat) (finished : Bool) :
    (pause context number finished).isReread = false :=
  rfl

@[simp]
theorem isReread_counted (counter : Counter) : (counted counter).isReread = false :=
  rfl

end Shapes

theorem isWrite_of_mayStore
    {exchange : Exchange} (stores : exchange.mayStore = true) :
    exchange.isWrite = true := by
  unfold mayStore at stores
  split at stores
  · rfl
  · rfl
  · cases stores

theorem mayStore_of_not_isWrite
    {exchange : Exchange} (other : exchange.isWrite = false) :
    exchange.mayStore = false := by
  cases stores : exchange.mayStore with
  | false => rfl
  | true =>
      rw [isWrite_of_mayStore stores] at other
      cases other

theorem mayStore_of_isStored
    {exchange : Exchange} (stored : exchange.isStored = true) :
    exchange.mayStore = true := by
  unfold isStored at stored
  split at stored
  · rfl
  · cases stored

theorem isStored_of_not_isWrite
    {exchange : Exchange} (other : exchange.isWrite = false) :
    exchange.isStored = false := by
  cases stored : exchange.isStored with
  | false => rfl
  | true =>
      rw [isWrite_of_mayStore (mayStore_of_isStored stored)] at other
      cases other

end Exchange

/-! ## The grammar -/

section Grammar

variable {α : Type} (context : Context) (mutation : Mutation) (change : Change α)

/-- The complete histories of the attempts from one with a given number on,
when that many more remain, with their results. -/
inductive Attempts : Nat → Nat → List Exchange → Except RegistryError α → Prop
  | unread {number remaining : Nat} (failure : CallError StoreError) :
      Attempts number remaining [.load context (.error failure)] (.error (.ofCall failure))
  | rejected {number remaining : Nat} (document : PipelineDocument) (version : Version)
      {error : RegistryError} (rejects : change document = .error error) :
      Attempts number remaining [.load context (.ok (document, version))] (.error error)
  | stored {number remaining : Nat} (document : PipelineDocument) (version later : Version)
      {written : PipelineDocument} {output : α}
      (drafted : change document = .ok (written, output)) :
      Attempts number remaining
        [.load context (.ok (document, version)),
          .write context written version (.ok later),
          .counted (.mutations mutation.entity mutation.kind)]
        (.ok output)
  | refused {number remaining : Nat} (document : PipelineDocument) (version : Version)
      {written : PipelineDocument} {output : α} (error : StoreError)
      (drafted : change document = .ok (written, output))
      (other : ∀ key expected, error ≠ .conflict key expected) :
      Attempts number remaining
        [.load context (.ok (document, version)),
          .write context written version (.error (.failed error))]
        (.error (.ofStore error))
  | recovered {number remaining : Nat} (document : PipelineDocument) (version later : Version)
      {written : PipelineDocument} {output : α} (cause : Interruption)
      (drafted : change document = .ok (written, output)) :
      Attempts number remaining
        [.load context (.ok (document, version)),
          .write context written version (.error (.interrupted cause)),
          .reread context (.ok (written, later)),
          .counted (.mutations mutation.entity mutation.kind)]
        (.ok output)
  | doubtful {number remaining : Nat} (document : PipelineDocument) (version : Version)
      {written : PipelineDocument} {output : α} (cause : Interruption)
      (answer : Except (CallError StoreError) (PipelineDocument × Version))
      (drafted : change document = .ok (written, output))
      (missing : ∀ later, answer ≠ .ok (written, later)) :
      Attempts number remaining
        [.load context (.ok (document, version)),
          .write context written version (.error (.interrupted cause)),
          .reread context answer,
          .counted .unknownWriteOutcomes]
        (.error (.unknownOutcome cause))
  | exhausted {number : Nat} (document : PipelineDocument) (version : Version)
      {written : PipelineDocument} {output : α} (key : PipelineKey) (expected : Version)
      (drafted : change document = .ok (written, output)) :
      Attempts number 0
        [.load context (.ok (document, version)),
          .write context written version (.error (.failed (.conflict key expected))),
          .counted .storeConflicts]
        (.error (.keptChanging context.key number))
  | abandoned {number fewer : Nat} (document : PipelineDocument) (version : Version)
      {written : PipelineDocument} {output : α} (key : PipelineKey) (expected : Version)
      (drafted : change document = .ok (written, output)) :
      Attempts number (fewer + 1)
        [.load context (.ok (document, version)),
          .write context written version (.error (.failed (.conflict key expected))),
          .counted .storeConflicts,
          .pause context number false]
        (.error (.interrupted .cancelled))
  | again {number fewer : Nat} (document : PipelineDocument) (version : Version)
      {written : PipelineDocument} {output : α} (key : PipelineKey) (expected : Version)
      {rest : List Exchange} {result : Except RegistryError α}
      (drafted : change document = .ok (written, output))
      (remaining : Attempts (number + 1) fewer rest result) :
      Attempts number (fewer + 1)
        (.load context (.ok (document, version)) ::
          .write context written version (.error (.failed (.conflict key expected))) ::
          .counted .storeConflicts ::
          .pause context number true :: rest)
        result

end Grammar

/-! ## The loop keeps to the grammar -/

namespace Registry

variable {α : Type} {context : Context} {mutation : Mutation} {change : Change α}
  {history : List Exchange}

theorem yields_load_iff
    {result : Except RegistryError (PipelineDocument × Version)} :
    Operation.Yields (load context) history result ↔
      (∃ failure,
        history = [.load context (.error failure)] ∧ result = .error (.ofCall failure)) ∨
      ∃ loaded, history = [.load context (.ok loaded)] ∧ result = .ok loaded := by
  unfold load
  rw [Operation.yields_request_bind_iff]
  constructor
  · rintro ⟨failure | loaded, rest, rfl, yields⟩
    · obtain ⟨rfl, rfl⟩ := Operation.yields_throw_iff.mp yields
      exact Or.inl ⟨failure, rfl, rfl⟩
    · obtain ⟨rfl, rfl⟩ := Operation.yields_pure_iff.mp yields
      exact Or.inr ⟨loaded, rfl, rfl⟩
  · rintro (⟨failure, rfl, rfl⟩ | ⟨loaded, rfl, rfl⟩)
    · exact ⟨.error failure, [], rfl, Operation.yields_throw_iff.mpr ⟨rfl, rfl⟩⟩
    · exact ⟨.ok loaded, [], rfl, Operation.yields_pure_iff.mpr ⟨rfl, rfl⟩⟩

theorem yields_count_bind_iff
    {counter : Counter} {next : Unit → Operation α} {result : Except RegistryError α} :
    Operation.Yields (count counter >>= next) history result ↔
      ∃ rest, history = .counted counter :: rest ∧ Operation.Yields (next ()) rest result := by
  unfold count
  rw [Operation.yields_request_bind_iff]
  constructor
  · rintro ⟨_, rest, rfl, yields⟩
    exact ⟨rest, rfl, yields⟩
  · rintro ⟨rest, rfl, yields⟩
    exact ⟨(), rest, rfl, yields⟩

theorem yields_settle
    {written : PipelineDocument} {output : α} {cause : Interruption}
    {result : Except RegistryError α}
    (yields : Operation.Yields (settle context mutation written output cause) history result) :
    (∃ later,
      history = [.reread context (.ok (written, later)),
        .counted (.mutations mutation.entity mutation.kind)] ∧
      result = .ok output) ∨
    ∃ answer,
      history = [.reread context answer, .counted .unknownWriteOutcomes] ∧
      (∀ later, answer ≠ .ok (written, later)) ∧ result = .error (.unknownOutcome cause) := by
  unfold settle writeLanded at yields
  rw [bind_assoc, Operation.yields_request_bind_iff] at yields
  obtain ⟨answer, rest, rfl, yields⟩ := yields
  have doubt
      (yields : Operation.Yields (do
        count .unknownWriteOutcomes
        (throw (.unknownOutcome cause) : Operation α)) rest result) :
      rest = [.counted .unknownWriteOutcomes] ∧ result = .error (.unknownOutcome cause) := by
    obtain ⟨none, rfl, ended⟩ := yields_count_bind_iff.mp yields
    obtain ⟨rfl, rfl⟩ := Operation.yields_throw_iff.mp ended
    exact ⟨rfl, rfl⟩
  rcases answer with failure | ⟨found, later⟩
  · have missing : ∀ later,
        (Except.error failure : Except (CallError StoreError) (PipelineDocument × Version)) ≠
          .ok (written, later) := by
      intro later same
      cases same
    obtain ⟨rfl, rfl⟩ := doubt yields
    exact Or.inr ⟨.error failure, rfl, missing, rfl⟩
  · by_cases same : found = written
    · subst same
      simp only [pure_bind, decide_true, ↓reduceIte] at yields
      obtain ⟨none, rfl, ended⟩ := yields_count_bind_iff.mp yields
      obtain ⟨rfl, rfl⟩ := Operation.yields_pure_iff.mp ended
      exact Or.inl ⟨later, rfl, rfl⟩
    · have missing : ∀ other,
          (Except.ok (found, later) : Except (CallError StoreError) (PipelineDocument × Version)) ≠
            .ok (written, other) := by
        intro other equal
        cases equal
        exact same rfl
      simp only [pure_bind, same, decide_false, Bool.false_eq_true, ↓reduceIte] at yields
      obtain ⟨rfl, rfl⟩ := doubt yields
      exact Or.inr ⟨.ok (found, later), rfl, missing, rfl⟩

/-- Whoever reads, changes and writes has done one of three things when the write comes to be
answered: nothing was read, the change was rejected, or a draft was written. -/
theorem yields_drafting
    {β : Type} {result : Except RegistryError β}
    {next : PipelineDocument → α → Except (CallError StoreError) Version → Operation β}
    (yields : Operation.Yields (do
      let (document, version) ← load context
      let (written, output) ← Operation.ofExcept (change document)
      let answer ← write context written version
      next written output answer) history result) :
    (∃ failure,
      history = [.load context (.error failure)] ∧ result = .error (.ofCall failure)) ∨
    (∃ document version error,
      history = [.load context (.ok (document, version))] ∧
      change document = .error error ∧ result = .error error) ∨
    ∃ document version written output answer rest,
      history = .load context (.ok (document, version)) ::
        .write context written version answer :: rest ∧
      change document = .ok (written, output) ∧
      Operation.Yields (next written output answer) rest result := by
  rw [Operation.yields_bind_iff] at yields
  rcases yields with ⟨error, loaded, rfl⟩ | ⟨earlier, later, read, rfl, loaded, yields⟩
  · rcases yields_load_iff.mp loaded with ⟨failure, rfl, same⟩ | ⟨_, _, same⟩
    · cases same
      exact Or.inl ⟨failure, rfl, rfl⟩
    · cases same
  · rcases yields_load_iff.mp loaded with ⟨_, _, same⟩ | ⟨⟨document, version⟩, rfl, same⟩
    · cases same
    · cases same
      apply Or.inr
      cases changed : change document with
      | error error =>
          simp only [changed] at yields
          obtain ⟨rfl, rfl⟩ := Operation.yields_throw_iff.mp yields
          exact Or.inl ⟨document, version, error, rfl, changed, rfl⟩
      | ok drafted =>
          obtain ⟨written, output⟩ := drafted
          simp only [changed] at yields
          have wrote :
              Operation.Yields (do
                let answer ← write context written version
                next written output answer) later result :=
            yields
          unfold write at wrote
          rw [Operation.yields_request_bind_iff] at wrote
          obtain ⟨answer, rest, rfl, concluded⟩ := wrote
          exact Or.inr ⟨document, version, written, output, answer, rest, rfl, changed,
            concluded⟩

/-- The first attempt of a loop, up to what follows a write. -/
theorem yields_attempt
    {number remaining : Nat} {result : Except RegistryError α}
    (yields : Operation.Yields (attempt context mutation change number remaining)
      history result) :
    (∃ failure,
      history = [.load context (.error failure)] ∧ result = .error (.ofCall failure)) ∨
    (∃ document version error,
      history = [.load context (.ok (document, version))] ∧
      change document = .error error ∧ result = .error error) ∨
    ∃ document version written output answer rest,
      history = .load context (.ok (document, version)) ::
        .write context written version answer :: rest ∧
      change document = .ok (written, output) ∧
      Operation.Yields
        (conclude context mutation written output
          (retry context mutation change number remaining) answer)
        rest result := by
  rw [attempt_eq] at yields
  exact yields_drafting yields

theorem attempts_of_retry
    {number remaining : Nat} {result : Except RegistryError α}
    (retried : ∀ {document version written output key expected rest result},
      change document = .ok (written, output) →
      Operation.Yields (retry context mutation change number remaining) rest result →
      Attempts context mutation change number remaining
        (.load context (.ok (document, version)) ::
          .write context written version (.error (.failed (.conflict key expected))) :: rest)
        result)
    (yields : Operation.Yields (attempt context mutation change number remaining)
      history result) :
    Attempts context mutation change number remaining history result := by
  rcases yields_attempt yields with
    ⟨failure, rfl, rfl⟩ | ⟨document, version, error, rfl, rejects, rfl⟩ |
    ⟨document, version, written, output, answer, rest, rfl, drafted, concluded⟩
  · exact Attempts.unread failure
  · exact Attempts.rejected document version rejects
  · have refuse (error : StoreError) (other : ∀ key expected, error ≠ .conflict key expected)
        (concluded : Operation.Yields (throw (.ofStore error) : Operation α) rest result) :
        Attempts context mutation change number remaining
          (.load context (.ok (document, version)) ::
            .write context written version (.error (.failed error)) :: rest) result := by
      obtain ⟨rfl, rfl⟩ := Operation.yields_throw_iff.mp concluded
      exact Attempts.refused document version error drafted other
    rcases answer with (error | cause) | later
    · cases error with
      | conflict key expected => exact retried drafted concluded
      | _ => exact refuse _ (by simp) concluded
    · rcases yields_settle concluded with ⟨later, rfl, rfl⟩ | ⟨answer, rfl, missing, rfl⟩
      · exact Attempts.recovered document version later cause drafted
      · exact Attempts.doubtful document version cause answer drafted missing
    · obtain ⟨none, rfl, ended⟩ := yields_count_bind_iff.mp concluded
      obtain ⟨rfl, rfl⟩ := Operation.yields_pure_iff.mp ended
      exact Attempts.stored document version later drafted

/-- Every complete history of the loop is in the grammar. -/
theorem attempts_of_yields
    {number remaining : Nat} {result : Except RegistryError α}
    (yields : Operation.Yields (attempt context mutation change number remaining)
      history result) :
    Attempts context mutation change number remaining history result := by
  induction remaining generalizing number history result with
  | zero =>
      apply attempts_of_retry _ yields
      intro document version written output key expected rest result drafted retried
      obtain ⟨none, rfl, ended⟩ := yields_count_bind_iff.mp retried
      obtain ⟨rfl, rfl⟩ := Operation.yields_throw_iff.mp ended
      exact Attempts.exhausted document version key expected drafted
  | succ fewer inductionHypothesis =>
      apply attempts_of_retry _ yields
      intro document version written output key expected rest result drafted retried
      obtain ⟨behind, rfl, ended⟩ := yields_count_bind_iff.mp retried
      rw [Operation.yields_request_bind_iff] at ended
      obtain ⟨finished, later, rfl, continued⟩ := ended
      cases finished with
      | false =>
          obtain ⟨rfl, rfl⟩ := Operation.yields_throw_iff.mp continued
          exact Attempts.abandoned document version key expected drafted
      | true =>
          exact Attempts.again document version key expected drafted
            (inductionHypothesis continued)

/-! ### Every sentence of the grammar is a history -/

theorem yields_settle_of_found
    {written : PipelineDocument} {output : α} {cause : Interruption} {later : Version} :
    Operation.Yields (settle context mutation written output cause)
      [.reread context (.ok (written, later)),
        .counted (.mutations mutation.entity mutation.kind)]
      (.ok output) := by
  unfold settle writeLanded
  rw [bind_assoc, Operation.yields_request_bind_iff]
  refine ⟨.ok (written, later), _, rfl, ?_⟩
  simp only [pure_bind, decide_true, ↓reduceIte]
  exact yields_count_bind_iff.mpr ⟨[], rfl, Operation.yields_pure_iff.mpr ⟨rfl, rfl⟩⟩

theorem yields_settle_of_missing
    {written : PipelineDocument} {output : α} {cause : Interruption}
    {answer : Except (CallError StoreError) (PipelineDocument × Version)}
    (missing : ∀ later, answer ≠ .ok (written, later)) :
    Operation.Yields (settle context mutation written output cause)
      [.reread context answer, .counted .unknownWriteOutcomes]
      (.error (.unknownOutcome cause)) := by
  unfold settle writeLanded
  rw [bind_assoc, Operation.yields_request_bind_iff]
  refine ⟨answer, _, rfl, ?_⟩
  have doubt :
      Operation.Yields (do
        count .unknownWriteOutcomes
        (throw (.unknownOutcome cause) : Operation α))
        [.counted .unknownWriteOutcomes] (.error (.unknownOutcome cause)) :=
    yields_count_bind_iff.mpr ⟨[], rfl, Operation.yields_throw_iff.mpr ⟨rfl, rfl⟩⟩
  rcases answer with failure | ⟨found, later⟩
  · exact doubt
  · have differs : found ≠ written := by
      rintro rfl
      exact missing later rfl
    simp only [pure_bind, differs, decide_false, Bool.false_eq_true, ↓reduceIte]
    exact doubt

theorem yields_attempt_of_conclude
    {number remaining : Nat} {result : Except RegistryError α}
    {document written : PipelineDocument} {version : Version} {output : α}
    {answer : Except (CallError StoreError) Version} {rest : List Exchange}
    (drafted : change document = .ok (written, output))
    (concluded : Operation.Yields
      (conclude context mutation written output
        (retry context mutation change number remaining) answer)
      rest result) :
    Operation.Yields (attempt context mutation change number remaining)
      (.load context (.ok (document, version)) ::
        .write context written version answer :: rest)
      result := by
  rw [attempt_eq, Operation.yields_bind_iff]
  refine Or.inr ⟨[.load context (.ok (document, version))], _, (document, version), rfl,
    yields_load_iff.mpr (Or.inr ⟨_, rfl, rfl⟩), ?_⟩
  simp only [drafted]
  change Operation.Yields (write context written version >>= _) _ _
  unfold write
  rw [Operation.yields_request_bind_iff]
  exact ⟨answer, rest, rfl, concluded⟩

theorem yields_of_attempts
    {number remaining : Nat} {result : Except RegistryError α}
    (attempts : Attempts context mutation change number remaining history result) :
    Operation.Yields (attempt context mutation change number remaining) history result := by
  induction attempts with
  | unread failure =>
      rw [attempt_eq, Operation.yields_bind_iff]
      exact Or.inl ⟨_, yields_load_iff.mpr (Or.inl ⟨failure, rfl, rfl⟩), rfl⟩
  | rejected document version rejects =>
      rw [attempt_eq, Operation.yields_bind_iff]
      refine Or.inr ⟨_, [], (document, version), rfl,
        yields_load_iff.mpr (Or.inr ⟨_, rfl, rfl⟩), ?_⟩
      simp only [rejects]
      exact Operation.yields_throw_iff.mpr ⟨rfl, rfl⟩
  | stored document version later drafted =>
      exact yields_attempt_of_conclude drafted
        (yields_count_bind_iff.mpr ⟨[], rfl, Operation.yields_pure_iff.mpr ⟨rfl, rfl⟩⟩)
  | refused document version error drafted other =>
      apply yields_attempt_of_conclude drafted
      cases error with
      | conflict key expected => exact absurd rfl (other key expected)
      | _ => exact Operation.yields_throw_iff.mpr ⟨rfl, rfl⟩
  | recovered document version later cause drafted =>
      exact yields_attempt_of_conclude drafted yields_settle_of_found
  | doubtful document version cause answer drafted missing =>
      exact yields_attempt_of_conclude drafted (yields_settle_of_missing missing)
  | exhausted document version key expected drafted =>
      exact yields_attempt_of_conclude drafted
        (yields_count_bind_iff.mpr ⟨[], rfl, Operation.yields_throw_iff.mpr ⟨rfl, rfl⟩⟩)
  | abandoned document version key expected drafted =>
      refine yields_attempt_of_conclude drafted (yields_count_bind_iff.mpr ⟨_, rfl, ?_⟩)
      rw [Operation.yields_request_bind_iff]
      exact ⟨false, [], rfl, Operation.yields_throw_iff.mpr ⟨rfl, rfl⟩⟩
  | again document version key expected drafted remaining inductionHypothesis =>
      refine yields_attempt_of_conclude drafted (yields_count_bind_iff.mpr ⟨_, rfl, ?_⟩)
      rw [Operation.yields_request_bind_iff]
      exact ⟨true, _, rfl, inductionHypothesis⟩

/-- The grammar describes the histories of the loop exactly. -/
theorem yields_attempt_iff
    {number remaining : Nat} {result : Except RegistryError α} :
    Operation.Yields (attempt context mutation change number remaining) history result ↔
      Attempts context mutation change number remaining history result :=
  ⟨attempts_of_yields, yields_of_attempts⟩

end Registry

/-! ## What the grammar says about writes -/

section Writes

variable {α : Type} {context : Context} {mutation : Mutation} {change : Change α}
  {number remaining : Nat} {history : List Exchange} {result : Except RegistryError α}

theorem cons_eq_append_cons
    {β : Type} {head middle : β} {tail before after : List β}
    (split : head :: tail = before ++ middle :: after) :
    (before = [] ∧ middle = head) ∨
      ∃ between, before = head :: between ∧ tail = between ++ middle :: after := by
  cases before with
  | nil =>
      injection split with same _
      exact Or.inl ⟨rfl, same.symm⟩
  | cons first between =>
      injection split with same rest
      subst same
      exact Or.inr ⟨between, rfl, rest⟩

namespace Attempts

/-- An attempt that writes has read right before, and it writes once only or
goes on with the next attempt after a conflict. -/
theorem opening
    (attempts : Attempts context mutation change number remaining history result) :
    (∃ answer, history = [.load context answer]) ∨
    ∃ document version written output answer rest,
      history = .load context (.ok (document, version)) ::
        .write context written version answer :: rest ∧
      change document = .ok (written, output) ∧
      ((∀ exchange ∈ rest, exchange.isWrite = false) ∨
        ∃ key expected fewer later,
          answer = .error (.failed (.conflict key expected)) ∧ remaining = fewer + 1 ∧
          rest = .counted .storeConflicts :: .pause context number true :: later ∧
          Attempts context mutation change (number + 1) fewer later result) := by
  cases attempts with
  | unread failure => exact Or.inl ⟨_, rfl⟩
  | rejected document version rejects => exact Or.inl ⟨_, rfl⟩
  | stored document version later drafted =>
      exact Or.inr ⟨_, _, _, _, _, _, rfl, drafted, Or.inl (by simp)⟩
  | refused document version error drafted other =>
      exact Or.inr ⟨_, _, _, _, _, _, rfl, drafted, Or.inl (by simp)⟩
  | recovered document version later cause drafted =>
      exact Or.inr ⟨_, _, _, _, _, _, rfl, drafted, Or.inl (by simp)⟩
  | doubtful document version cause answer drafted missing =>
      exact Or.inr ⟨_, _, _, _, _, _, rfl, drafted, Or.inl (by simp)⟩
  | exhausted document version key expected drafted =>
      exact Or.inr ⟨_, _, _, _, _, _, rfl, drafted, Or.inl (by simp)⟩
  | abandoned document version key expected drafted =>
      exact Or.inr ⟨_, _, _, _, _, _, rfl, drafted, Or.inl (by simp)⟩
  | again document version key expected drafted remaining =>
      exact Or.inr ⟨_, _, _, _, _, _, rfl, drafted,
        Or.inr ⟨_, _, _, _, rfl, rfl, rfl, remaining⟩⟩

/-- A write is drafted from what was read right before it, and no write before
that can have been stored. -/
theorem drafted_of_write
    (attempts : Attempts context mutation change number remaining history result)
    {before after : List Exchange} {bound : Bound} {key : PipelineKey}
    {written : PipelineDocument} {version : Version}
    {answer : Except (CallError StoreError) Version}
    (split :
      history = before ++ ⟨.store bound (.update key written version), answer⟩ :: after) :
    key = context.key ∧
      ∃ earlier document output,
        before = earlier ++ [.load context (.ok (document, version))] ∧
        change document = .ok (written, output) ∧
        ∀ exchange ∈ earlier, exchange.mayStore = false := by
  induction remaining using Nat.strongRecOn generalizing number history before with
  | ind remaining inductionHypothesis =>
      rcases attempts.opening with
        ⟨loaded, rfl⟩ |
        ⟨document, expected, drafted, output, answered, rest, rfl, changed, continued⟩
      · rcases cons_eq_append_cons split with ⟨_, impossible⟩ | ⟨between, _, impossible⟩
        · cases impossible
        · simp at impossible
      rcases cons_eq_append_cons split with ⟨_, impossible⟩ | ⟨behindRead, rfl, writeSplit⟩
      · cases impossible
      rcases cons_eq_append_cons writeSplit with ⟨rfl, same⟩ | ⟨behindWrite, rfl, restSplit⟩
      · cases same
        exact ⟨rfl, [], document, output, rfl, changed, by simp⟩
      rcases continued with none | ⟨refuser, refused, fewer, later, rfl, rfl, rfl, remaining⟩
      · subst restSplit
        have impossible := none _ (List.mem_append_right behindWrite (List.Mem.head after))
        cases impossible
      rcases cons_eq_append_cons restSplit with ⟨_, impossible⟩ | ⟨behindCount, rfl, pauseSplit⟩
      · cases impossible
      rcases cons_eq_append_cons pauseSplit with ⟨_, impossible⟩ | ⟨behindPause, rfl, laterSplit⟩
      · cases impossible
      obtain ⟨sameKey, earlier, read, outcome, rfl, change, harmless⟩ :=
        inductionHypothesis fewer (Nat.lt_succ_self fewer) remaining laterSplit
      refine ⟨sameKey, _ :: _ :: _ :: _ :: earlier, read, outcome, rfl, change, ?_⟩
      intro exchange member
      simp only [List.mem_cons] at member
      rcases member with rfl | rfl | rfl | rfl | member
      · rfl
      · rfl
      · rfl
      · rfl
      · exact harmless exchange member

/-- A result that is no error comes from a write that was stored, or from one
whose document was found stored afterwards. -/
theorem write_of_ok
    {output : α}
    (attempts : Attempts context mutation change number remaining history (.ok output)) :
    ∃ earlier document version written answer rest,
      history = earlier ++ .load context (.ok (document, version)) ::
        .write context written version answer :: rest ∧
      change document = .ok (written, output) ∧
      ((∃ later, answer = .ok later) ∨
        ∃ cause later behind,
          answer = .error (.interrupted cause) ∧
          rest = .reread context (.ok (written, later)) :: behind) := by
  generalize same : (Except.ok output : Except RegistryError α) = result at attempts
  induction attempts with
  | unread failure => cases same
  | rejected document version rejects => cases same
  | stored document version later drafted =>
      cases same
      exact ⟨[], document, version, _, _, _, rfl, drafted, Or.inl ⟨later, rfl⟩⟩
  | refused document version error drafted other => cases same
  | recovered document version later cause drafted =>
      cases same
      exact ⟨[], document, version, _, _, _, rfl, drafted, Or.inr ⟨cause, later, _, rfl, rfl⟩⟩
  | doubtful document version cause answer drafted missing => cases same
  | exhausted document version key expected drafted => cases same
  | abandoned document version key expected drafted => cases same
  | again document version key expected drafted remaining inductionHypothesis =>
      obtain ⟨earlier, read, token, written, answer, rest, rfl, changed, landed⟩ :=
        inductionHypothesis same
      exact ⟨_ :: _ :: _ :: _ :: earlier, read, token, written, answer, rest, rfl, changed,
        landed⟩

/-- When the result is an error, the store has not said of any write that it
was stored. Unless the error is a failed dependency, it has refused all. -/
theorem refused_of_error
    {error : RegistryError}
    (attempts : Attempts context mutation change number remaining history (.error error)) :
    ∀ exchange ∈ history,
      exchange.isStored = false ∧
        (error.kind ≠ .dependencyFailure → exchange.mayStore = false) := by
  have other {exchange : Exchange} (unwritten : exchange.isWrite = false) :
      exchange.isStored = false ∧
        (error.kind ≠ .dependencyFailure → exchange.mayStore = false) :=
    ⟨Exchange.isStored_of_not_isWrite unwritten,
      fun _ => Exchange.mayStore_of_not_isWrite unwritten⟩
  generalize same : (Except.error error : Except RegistryError α) = result at attempts
  induction attempts with
  | unread failure =>
      simpa only [List.mem_singleton, forall_eq] using other rfl
  | rejected document version rejects =>
      simpa only [List.mem_singleton, forall_eq] using other rfl
  | stored document version later drafted => cases same
  | refused document version failure drafted unequal =>
      cases same
      simp only [List.mem_cons, List.not_mem_nil, or_false, forall_eq_or_imp, forall_eq]
      refine ⟨other rfl, rfl, ?_⟩
      intro known
      cases failure with
      | connection reason => exact absurd rfl known
      | query statement reason => exact absurd rfl known
      | _ => rfl
  | recovered document version later cause drafted => cases same
  | doubtful document version cause answer drafted missing =>
      cases same
      simp only [List.mem_cons, List.not_mem_nil, or_false, forall_eq_or_imp, forall_eq]
      exact ⟨other rfl, ⟨rfl, fun known => absurd rfl known⟩, other rfl, other rfl⟩
  | exhausted document version key expected drafted =>
      simp only [List.mem_cons, List.not_mem_nil, or_false, forall_eq_or_imp, forall_eq]
      exact ⟨other rfl, ⟨rfl, fun _ => rfl⟩, other rfl⟩
  | abandoned document version key expected drafted =>
      simp only [List.mem_cons, List.not_mem_nil, or_false, forall_eq_or_imp, forall_eq]
      exact ⟨other rfl, ⟨rfl, fun _ => rfl⟩, other rfl, other rfl⟩
  | again document version key expected drafted remaining inductionHypothesis =>
      simp only [List.mem_cons, forall_eq_or_imp]
      exact ⟨other rfl, ⟨rfl, fun _ => rfl⟩, other rfl, other rfl, inductionHypothesis same⟩

end Attempts

end Writes

end PipelineRegistry
