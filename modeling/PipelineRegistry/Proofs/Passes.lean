import PipelineRegistry.Proofs.AttemptHistory

/-!
# Passes of the loop

The loop that makes a change counts its passes with a word of 32 bits and goes on for as long as its
policy allows another one. `pass` is one run through that loop. The counter stays within the number
of attempts that the policy allows, so it does not wrap around, and what the loop does with words is
what `mutate` does with numbers.
-/

namespace PipelineRegistry

open Registry

/-! ## One pass of the loop -/

namespace Registry

variable {α : Type}

/-- What a pass does about a conflict: it waits for the next pass, as long as the policy allows
one. The counter is a word and counts as words do. -/
def contend (context : Context) (number : UInt32) : Operation (α ⊕ UInt32) := do
  count .storeConflicts
  if context.settings.retryPolicy.allowsRetry number.toNat then
    let waited : Bool ←
      Operation.request (.pause (context.settings.retryPolicy.interval number.toNat))
    if waited then return .inr (number + 1)
    else throw (.interrupted .cancelled)
  else throw (.keptChanging context.key number.toNat)

/-- One pass: it ends with the output of the change, or with the number of the next pass. -/
def pass (context : Context) (mutation : Mutation) (change : Change α) (number : UInt32) :
    Operation (α ⊕ UInt32) := do
  let (document, version) ← load context
  let (written, output) ← Operation.ofExcept (change document)
  let answer ← write context written version
  conclude context mutation written (.inl output) (contend context number) answer

/-- What becomes of the loop behind a pass. -/
def proceed (context : Context) (mutation : Mutation) (change : Change α) (remaining : Nat) :
    α ⊕ UInt32 → Operation α
  | .inl output => pure output
  | .inr next => attempt context mutation change next.toNat remaining

section Words

variable {context : Context} {mutation : Mutation} {change : Change α} {number : UInt32}

theorem toNat_next (allowed : context.settings.retryPolicy.allowsRetry number.toNat = true) :
    (number + 1).toNat = number.toNat + 1 ∧
      number.toNat < context.settings.retryPolicy.maxAttempts.toNat := by
  have below : number.toNat < context.settings.retryPolicy.maxAttempts.toNat :=
    of_decide_eq_true allowed
  have word := context.settings.retryPolicy.maxAttempts.toNat_lt
  refine ⟨?_, below⟩
  rw [UInt32.toNat_add]
  exact Nat.mod_eq_of_lt (by simp; omega)

theorem conclude_bind
    {β : Type} (written : PipelineDocument) (output : α) (conflicted : Operation (α ⊕ β))
    (further : α ⊕ β → Operation α) (ends : further (.inl output) = pure output)
    (answer : Except (CallError StoreError) Version) :
    conclude context mutation written (.inl output) conflicted answer >>= further =
      conclude context mutation written output (conflicted >>= further) answer := by
  rcases answer with (error | cause) | later
  · cases error with
    | conflict key expected => rfl
    | _ => rfl
  · change settle context mutation written (Sum.inl output) cause >>= further =
      settle context mutation written output cause
    unfold settle
    rw [bind_assoc]
    congr 1
    funext landed
    cases landed
    · rfl
    · simp only [↓reduceIte, bind_assoc, pure_bind, ends]
  · change (count _ >>= fun _ => pure (Sum.inl output)) >>= further =
      count _ >>= fun _ => pure output
    simp only [bind_assoc, pure_bind, ends]

/-- With words, the loop does what it does with numbers. -/
theorem attempt_eq_pass
    {remaining : Nat} (positive : 1 ≤ number.toNat)
    (budget : number.toNat + remaining =
      max 1 context.settings.retryPolicy.maxAttempts.toNat) :
    attempt context mutation change number.toNat remaining =
      pass context mutation change number >>=
        proceed context mutation change (remaining - 1) := by
  have contended : retry context mutation change number.toNat remaining =
      contend context number >>= proceed context mutation change (remaining - 1) := by
    unfold contend
    -- the policy refuses another pass exactly when none remains
    cases remaining with
    | zero =>
        have last : context.settings.retryPolicy.allowsRetry number.toNat = false := by
          apply decide_eq_false
          omega
        rw [retry, bind_assoc]
        simp only [last, Bool.false_eq_true, ↓reduceIte]
        rfl
    | succ fewer =>
        have allowed : context.settings.retryPolicy.allowsRetry number.toNat = true := by
          apply decide_eq_true
          omega
        rw [retry, bind_assoc]
        simp only [allowed, ↓reduceIte, bind_assoc]
        congr 1
        funext counted
        congr 1
        funext waited
        cases waited with
        | false => rfl
        | true =>
            change attempt context mutation change (number.toNat + 1) fewer =
              attempt context mutation change (number + 1).toNat fewer
            rw [(toNat_next allowed).1]
  rw [attempt_eq, pass, contended]
  simp only [bind_assoc]
  congr 1
  funext loaded
  congr 1
  funext drafted
  congr 1
  funext answer
  exact (conclude_bind drafted.1 drafted.2 _ _ rfl answer).symm

end Words

end Registry

/-! ## Passes in a row -/

section Passes

variable {α : Type} (context : Context) (mutation : Mutation) (change : Change α)

/-- Passes that go on with the next one, from the first counter to the last. -/
inductive Passes : UInt32 → List (List Exchange) → UInt32 → Prop
  | none (number : UInt32) :
      Passes number [] number
  | again {number next last : UInt32} {history : List Exchange} {rounds : List (List Exchange)}
      (first : Operation.Yields (pass context mutation change number) history (.ok (.inr next)))
      (rest : Passes next rounds last) :
      Passes number (history :: rounds) last

end Passes

section Loop

variable {α : Type} {context : Context} {mutation : Mutation} {change : Change α}
  {number next : UInt32} {history : List Exchange}

theorem yields_pass
    {result : Except RegistryError (α ⊕ UInt32)}
    (yields : Operation.Yields (pass context mutation change number) history result) :
    (∃ failure,
      history = [.load context (.error failure)] ∧ result = .error (.ofCall failure)) ∨
    (∃ document version error,
      history = [.load context (.ok (document, version))] ∧
      change document = .error error ∧ result = .error error) ∨
    ∃ document version written output answer rest,
      history = .load context (.ok (document, version)) ::
        .write context written version answer :: rest ∧
      change document = .ok (written, output) ∧
      Operation.Yields
        (conclude context mutation written (.inl output) (contend context number) answer)
        rest result := by
  have drafting : Operation.Yields (do
      let (document, version) ← load context
      let (written, output) ← Operation.ofExcept (change document)
      let answer ← write context written version
      conclude context mutation written (.inl output) (contend context number) answer)
      history result :=
    yields
  exact yields_drafting drafting

/-- What a pass has done that goes on with the next one. -/
theorem yields_pass_again
    (yields : Operation.Yields (pass context mutation change number) history (.ok (.inr next))) :
    (∃ document version written output key expected,
      history =
        [.load context (.ok (document, version)),
          .write context written version (.error (.failed (.conflict key expected))),
          .counted .storeConflicts,
          .pause context number.toNat true] ∧
      change document = .ok (written, output)) ∧
    context.settings.retryPolicy.allowsRetry number.toNat = true ∧ next = number + 1 := by
  rcases yields_pass yields with
    ⟨_, _, impossible⟩ | ⟨_, _, _, _, _, impossible⟩ |
    ⟨document, version, written, output, answer, rest, rfl, drafted, concluded⟩
  · cases impossible
  · cases impossible
  rcases answer with (error | cause) | later
  · cases error with
    | conflict key expected =>
        obtain ⟨behind, rfl, contended⟩ := yields_count_bind_iff.mp concluded
        split at contended
        case isTrue allowed =>
          obtain ⟨finished, ended, rfl, continued⟩ :=
            Operation.yields_request_bind_iff.mp contended
          cases finished with
          | false => cases (Operation.yields_throw_iff.mp continued).2
          | true =>
              obtain ⟨rfl, same⟩ := Operation.yields_pure_iff.mp continued
              cases same
              exact ⟨⟨document, version, written, output, key, expected, rfl, drafted⟩,
                allowed, rfl⟩
        case isFalse => cases (Operation.yields_throw_iff.mp contended).2
    | _ => cases (Operation.yields_throw_iff.mp concluded).2
  · rcases yields_settle concluded with ⟨_, _, same⟩ | ⟨_, _, _, same⟩
    · cases same
    · cases same
  · obtain ⟨behind, rfl, ended⟩ := yields_count_bind_iff.mp concluded
    cases (Operation.yields_pure_iff.mp ended).2

/-- The counter counts the passes. It stays within the number of attempts, and so it never comes to
the end of its word. -/
theorem Passes.toNat_eq
    {rounds : List (List Exchange)} {last : UInt32}
    (passes : Passes context mutation change number rounds last) :
    last.toNat = number.toNat + rounds.length ∧
      (rounds = [] ∨ last.toNat ≤ context.settings.retryPolicy.maxAttempts.toNat) := by
  induction passes with
  | none number => exact ⟨rfl, Or.inl rfl⟩
  | again first rest inductionHypothesis =>
      obtain ⟨-, allowed, rfl⟩ := yields_pass_again first
      obtain ⟨counted, below⟩ := toNat_next allowed
      obtain ⟨length, bounded⟩ := inductionHypothesis
      rw [counted] at length
      refine ⟨by rw [length, List.length_cons]; omega, Or.inr ?_⟩
      rcases bounded with rfl | bounded
      · rw [length, List.length_nil]
        omega
      · exact bounded

theorem yields_attempt_iff_pass
    {remaining : Nat} {result : Except RegistryError α} (positive : 1 ≤ number.toNat)
    (budget : number.toNat + remaining =
      max 1 context.settings.retryPolicy.maxAttempts.toNat) :
    Operation.Yields (attempt context mutation change number.toNat remaining) history result ↔
      Operation.Yields (pass context mutation change number) history (result.map .inl) ∨
      ∃ first later next,
        history = first ++ later ∧
        Operation.Yields (pass context mutation change number) first (.ok (.inr next)) ∧
        Operation.Yields (attempt context mutation change next.toNat (remaining - 1))
          later result := by
  rw [attempt_eq_pass positive budget, Operation.yields_bind_iff]
  constructor
  · rintro (⟨error, failed, rfl⟩ | ⟨first, later, output | next, rfl, passed, proceeded⟩)
    · exact Or.inl failed
    · obtain ⟨rfl, rfl⟩ := Operation.yields_pure_iff.mp proceeded
      rw [List.append_nil]
      exact Or.inl passed
    · exact Or.inr ⟨first, later, next, rfl, passed, proceeded⟩
  · rintro (ended | ⟨first, later, next, rfl, passed, continued⟩)
    · cases result with
      | error error => exact Or.inl ⟨error, ended, rfl⟩
      | ok output =>
          exact Or.inr ⟨history, [], .inl output, (List.append_nil _).symm, ended,
            Operation.yields_pure_iff.mpr ⟨rfl, rfl⟩⟩
    · exact Or.inr ⟨first, later, .inr next, rfl, passed, continued⟩

/-- The loop is made of passes: some that go on with the next one, and one that ends. -/
theorem yields_attempt_iff_passes
    {remaining : Nat} {result : Except RegistryError α} (positive : 1 ≤ number.toNat)
    (budget : number.toNat + remaining =
      max 1 context.settings.retryPolicy.maxAttempts.toNat) :
    Operation.Yields (attempt context mutation change number.toNat remaining) history result ↔
      ∃ rounds last ending,
        Passes context mutation change number rounds last ∧
        history = rounds.flatten ++ ending ∧
        Operation.Yields (pass context mutation change last) ending (result.map .inl) := by
  induction remaining using Nat.strongRecOn generalizing number history with
  | ind remaining inductionHypothesis =>
      -- the budget is the same for the next pass: its number is one more, and one fewer remains
      have goesOn {first : List Exchange} {next : UInt32}
          (passed :
            Operation.Yields (pass context mutation change number) first (.ok (.inr next))) :
          next.toNat = number.toNat + 1 ∧ remaining - 1 < remaining := by
        obtain ⟨-, allowed, rfl⟩ := yields_pass_again passed
        obtain ⟨counted, below⟩ := toNat_next allowed
        exact ⟨counted, by omega⟩
      rw [yields_attempt_iff_pass positive budget]
      constructor
      · rintro (ended | ⟨first, later, next, rfl, passed, continued⟩)
        · exact ⟨[], number, history, Passes.none number, rfl, ended⟩
        · obtain ⟨counted, fewer⟩ := goesOn passed
          rw [inductionHypothesis _ fewer (by omega) (by omega)] at continued
          obtain ⟨rounds, last, ending, passes, rfl, ended⟩ := continued
          exact ⟨first :: rounds, last, ending, Passes.again passed passes, by simp, ended⟩
      · rintro ⟨rounds, last, ending, passes, rfl, ended⟩
        cases passes with
        | none => exact Or.inl ended
        | @again _ next _ first rounds passed rest =>
            obtain ⟨counted, fewer⟩ := goesOn passed
            refine Or.inr ⟨first, rounds.flatten ++ ending, next, by simp, passed, ?_⟩
            rw [inductionHypothesis _ fewer (by omega) (by omega)]
            exact ⟨rounds, last, ending, rest, rfl, ended⟩

theorem toNat_one : (1 : UInt32).toNat = 1 :=
  rfl

/-- Counted from one, the counter is the number of the attempt. -/
theorem Passes.number_of_attempt
    {rounds : List (List Exchange)} {last : UInt32}
    (passes : Passes context mutation change 1 rounds last) :
    last.toNat = rounds.length + 1 ∧
      last.toNat ≤ max 1 context.settings.retryPolicy.maxAttempts.toNat := by
  obtain ⟨counted, bounded⟩ := passes.toNat_eq
  rw [toNat_one] at counted
  refine ⟨by omega, ?_⟩
  rcases bounded with rfl | bounded
  · rw [counted, List.length_nil]
    omega
  · omega

theorem yields_mutate_iff_passes
    {result : Except RegistryError α} :
    Operation.Yields (mutate context mutation change) history result ↔
      ∃ rounds last ending,
        Passes context mutation change 1 rounds last ∧
        history = rounds.flatten ++ ending ∧
        Operation.Yields (pass context mutation change last) ending (result.map .inl) := by
  have budget : (1 : UInt32).toNat + (context.settings.retryPolicy.maxAttempts.toNat - 1) =
      max 1 context.settings.retryPolicy.maxAttempts.toNat := by
    rw [toNat_one]
    omega
  have positive : 1 ≤ (1 : UInt32).toNat := Nat.le_refl 1
  exact yields_attempt_iff_passes positive budget

end Loop

end PipelineRegistry
