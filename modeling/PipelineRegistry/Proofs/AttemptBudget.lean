import Mathlib.Tactic.Ring
import PipelineRegistry.Proofs.Courses
import PipelineRegistry.Proofs.Passes
import PipelineRegistry.Registry.Functions

/-!
# The budget of a change

The loop that makes a change ends on every store, also on one that answers every write with a
conflict and on one that never answers. From what one pass does follows what the whole loop does:
how often it reads, evaluates the change and writes, which waits it takes and in what order, and how
long it lasts.
-/

namespace PipelineRegistry

open Registry

/-! ## Exchanges that are accounted for -/

namespace Exchange

/-- A document was asked for at the beginning of a pass. -/
def isLoad : Exchange → Bool
  | ⟨.store bound (.get _), _⟩ => bound.heedsCancellation
  | _ => false

/-- The document that a pass begins with. The change is evaluated at these, once at each. -/
def loaded? : Exchange → Option PipelineDocument
  | ⟨.store ⟨_, true⟩ (.get _), .ok (document, _)⟩ => some document
  | _ => none

/-- The wait that was begun, and whether it came to its end. -/
def wait? : Exchange → Option (Duration × Bool)
  | ⟨.pause duration, finished⟩ => some (duration, finished)
  | _ => none

end Exchange

/-- What a history has cost: what was asked of the store, where the change was evaluated, and which
waits were begun. -/
structure Expense where
  loads : Nat
  evaluations : List PipelineDocument
  writes : Nat
  rereads : Nat
  waits : List (Duration × Bool)

namespace Expense

def ofHistory (history : List Exchange) : Expense where
  loads := history.countP Exchange.isLoad
  evaluations := history.filterMap Exchange.loaded?
  writes := history.countP Exchange.isWrite
  rereads := history.countP Exchange.isReread
  waits := history.filterMap Exchange.wait?

/-- The longest time that waits can take. -/
def waiting (expense : Expense) : Nat :=
  (expense.waits.map fun wait => wait.1.ticks).sum

theorem waiting_of_single
    {expense : Expense} {duration : Duration} {finished : Bool}
    (same : expense.waits = [(duration, finished)]) : expense.waiting = duration.ticks := by
  rw [waiting, same, List.map_singleton, List.sum_singleton]

theorem ofHistory_append (earlier later : List Exchange) :
    ofHistory (earlier ++ later) =
      { loads := (ofHistory earlier).loads + (ofHistory later).loads
        evaluations := (ofHistory earlier).evaluations ++ (ofHistory later).evaluations
        writes := (ofHistory earlier).writes + (ofHistory later).writes
        rereads := (ofHistory earlier).rereads + (ofHistory later).rereads
        waits := (ofHistory earlier).waits ++ (ofHistory later).waits } := by
  simp [ofHistory]

end Expense

section Budget

variable {α : Type} {context : Context} {mutation : Mutation} {change : Change α}
  {number next : UInt32} {history : List Exchange}

/-! ## What passes cost -/

@[simp]
theorem longest_load
    (answer : Except (CallError StoreError) (PipelineDocument × Version)) :
    (Exchange.load context answer).request.longest = context.settings.callTimeout.ticks :=
  rfl

@[simp]
theorem longest_reread
    (answer : Except (CallError StoreError) (PipelineDocument × Version)) :
    (Exchange.reread context answer).request.longest = context.settings.callTimeout.ticks :=
  rfl

@[simp]
theorem longest_write
    (document : PipelineDocument) (expected : Version)
    (answer : Except (CallError StoreError) Version) :
    (Exchange.write context document expected answer).request.longest =
      context.settings.callTimeout.ticks :=
  rfl

@[simp]
theorem longest_pause (attempt : Nat) (finished : Bool) :
    (Exchange.pause context attempt finished).request.longest =
      (context.settings.retryPolicy.interval attempt).ticks :=
  rfl

@[simp]
theorem longest_counted (counter : Counter) :
    (Exchange.counted counter).request.longest = 0 :=
  rfl

/-- The waits behind the attempts from one on, all of which came to their ends. -/
def waitsFrom (context : Context) (first several : Nat) : List (Duration × Bool) :=
  (List.range' first several).map fun attempt =>
    (context.settings.retryPolicy.interval attempt, true)

theorem Passes.expense
    {rounds : List (List Exchange)} {last : UInt32}
    (passes : Passes context mutation change number rounds last) :
    ∃ documents : List PipelineDocument,
      documents.length = rounds.length ∧
      Expense.ofHistory rounds.flatten =
        ⟨rounds.length, documents, rounds.length, 0,
          waitsFrom context number.toNat rounds.length⟩ ∧
      longestOf rounds.flatten =
        2 * rounds.length * context.settings.callTimeout.ticks +
          (Expense.ofHistory rounds.flatten).waiting ∧
      rounds.flatten.length = 4 * rounds.length := by
  induction passes with
  | none number =>
      exact ⟨[], rfl, rfl, by simp [longestOf, Expense.waiting, Expense.ofHistory], rfl⟩
  | @again number next last history rounds first rest inductionHypothesis =>
      obtain ⟨⟨document, version, written, output, key, expected, rfl, -⟩, allowed, rfl⟩ :=
        yields_pass_again first
      obtain ⟨documents, sameLength, spent, longest, length⟩ := inductionHypothesis
      have own : Expense.ofHistory
          [.load context (.ok (document, version)),
            .write context written version (.error (.failed (.conflict key expected))),
            .counted .storeConflicts,
            .pause context number.toNat true] =
          ⟨1, [document], 1, 0,
            [(context.settings.retryPolicy.interval number.toNat, true)]⟩ :=
        rfl
      refine ⟨document :: documents, by simp [sameLength], ?_, ?_, ?_⟩
      · rw [List.flatten_cons, Expense.ofHistory_append, own, spent, (toNat_next allowed).1]
        simp [waitsFrom, List.range'_succ, Nat.add_comm]
      · rw [List.flatten_cons, longestOf_append, Expense.ofHistory_append, longest, own]
        simp [longestOf, Expense.waiting]
        ring
      · rw [List.flatten_cons, List.length_append, length, List.length_cons]
        simp only [List.length_cons, List.length_nil]
        omega

/-- Nothing goes wrong but that every write meets another one. -/
structure Contested (context : Context) (change : Change α) (history : List Exchange) : Prop where
  loaded : ∀ answer, .load context answer ∈ history → ∃ loaded, answer = .ok loaded
  accepted : ∀ document version, .load context (.ok (document, version)) ∈ history →
    ∃ drafted, change document = .ok drafted
  conflicting : ∀ written version answer, .write context written version answer ∈ history →
    ∃ key expected, answer = .error (.failed (.conflict key expected))

/-- What the pass has done with which the loop ends. -/
structure Ending (context : Context) (change : Change α) (number : Nat) (history : List Exchange)
    (result : Except RegistryError α) : Prop where
  loads : (Expense.ofHistory history).loads = 1
  evaluations : (Expense.ofHistory history).evaluations.length ≤ 1
  writes : (Expense.ofHistory history).writes ≤ 1
  rereads : (Expense.ofHistory history).rereads ≤ 1
  waits : (Expense.ofHistory history).waits = [] ∨
    (Expense.ofHistory history).waits =
        [(context.settings.retryPolicy.interval number, false)] ∧
      result = .error (.interrupted .cancelled)
  longest : longestOf history ≤
    3 * context.settings.callTimeout.ticks + (Expense.ofHistory history).waiting
  length : history.length ≤ 4
  contested : Contested context change history →
    (context.settings.retryPolicy.allowsRetry number = false ∧
        result = .error (.keptChanging context.key number)) ∨
      (.pause context number false ∈ history ∧ result = .error (.interrupted .cancelled))

theorem eq_error_of_map
    {result : Except RegistryError α} {error : RegistryError}
    (same : result.map (Sum.inl : α → α ⊕ UInt32) = .error error) : result = .error error := by
  cases result with
  | error known =>
      cases same
      rfl
  | ok output => cases same

/-- A pass that ends before its write is answered is not contested, and neither is one whose write
is answered with anything but a conflict. -/
theorem Contested.conflict_of_write
    {document : PipelineDocument} {version : Version} {written : PipelineDocument}
    {answer : Except (CallError StoreError) Version} {rest : List Exchange}
    (contested : Contested context change
      (.load context (.ok (document, version)) :: .write context written version answer :: rest)) :
    ∃ key expected, answer = .error (.failed (.conflict key expected)) :=
  contested.conflicting written version answer (by simp)

theorem Ending.of_contend
    {document written : PipelineDocument} {version : Version} {key : PipelineKey}
    {expected : Version} {rest : List Exchange} {result : Except RegistryError α}
    (yields : Operation.Yields (contend context number) rest (result.map .inl)) :
    Ending context change number.toNat
      (.load context (.ok (document, version)) ::
        .write context written version (.error (.failed (.conflict key expected))) :: rest)
      result := by
  obtain ⟨behind, rfl, contended⟩ := yields_count_bind_iff.mp yields
  split at contended
  case isTrue allowed =>
    obtain ⟨finished, later, rfl, continued⟩ := Operation.yields_request_bind_iff.mp contended
    cases finished with
    | true =>
        -- behind a wait that was finished there is another pass, so the loop does not end here
        obtain ⟨-, impossible⟩ := Operation.yields_pure_iff.mp continued
        cases result with
        | error error => cases impossible
        | ok output => cases impossible
    | false =>
        obtain ⟨rfl, ended⟩ := Operation.yields_throw_iff.mp continued
        obtain rfl := eq_error_of_map ended
        have waits : (Expense.ofHistory
            [.load context (.ok (document, version)),
              .write context written version (.error (.failed (.conflict key expected))),
              .counted .storeConflicts,
              .pause context number.toNat false]).waits =
            [(context.settings.retryPolicy.interval number.toNat, false)] :=
          rfl
        have longest : longestOf
            [.load context (.ok (document, version)),
              .write context written version (.error (.failed (.conflict key expected))),
              .counted .storeConflicts,
              .pause context number.toNat false] =
            2 * context.settings.callTimeout.ticks +
              (context.settings.retryPolicy.interval number.toNat).ticks := by
          simp only [longestOf, longest_load, longest_write, longest_counted,
            longest_pause]
          omega
        refine ⟨rfl, Nat.le_refl _, Nat.le_refl _, Nat.zero_le _, Or.inr ⟨waits, rfl⟩, ?longest,
          Nat.le_refl _, fun _ => Or.inr ?unfinished⟩
        case longest =>
          change longestOf [.load context _, .write context _ _ _, .counted _, .pause context _ _] ≤
            3 * context.settings.callTimeout.ticks + (Expense.ofHistory
              [.load context _, .write context _ _ _, .counted _, .pause context _ _]).waiting
          rw [longest, Expense.waiting_of_single waits]
          omega
        case unfinished => exact ⟨by simp [Exchange.pause], rfl⟩
  case isFalse denied =>
    obtain ⟨rfl, ended⟩ := Operation.yields_throw_iff.mp contended
    obtain rfl := eq_error_of_map ended
    refine ⟨rfl, Nat.le_refl _, Nat.le_refl _, Nat.zero_le _, Or.inl rfl, ?longest,
      by simp, fun _ => Or.inl ⟨by simpa using denied, rfl⟩⟩
    case longest =>
      simp only [longestOf, longest_load, longest_write, longest_counted]
      omega

theorem Ending.of_yields
    {result : Except RegistryError α}
    (yields : Operation.Yields (pass context mutation change number) history (result.map .inl)) :
    Ending context change number.toNat history result := by
  rcases yields_pass yields with
    ⟨failure, rfl, ended⟩ | ⟨document, version, error, rfl, rejects, ended⟩ |
    ⟨document, version, written, output, answer, rest, rfl, drafted, concluded⟩
  · refine ⟨rfl, Nat.zero_le _, Nat.zero_le _, Nat.zero_le _, Or.inl rfl, ?_, by simp, ?_⟩
    · simp only [longestOf, longest_load]
      omega
    · intro contested
      obtain ⟨loaded, impossible⟩ := contested.loaded _ (List.mem_singleton_self _)
      cases impossible
  · refine ⟨rfl, Nat.le_refl _, Nat.zero_le _, Nat.zero_le _, Or.inl rfl, ?_, by simp, ?_⟩
    · simp only [longestOf, longest_load]
      omega
    · intro contested
      obtain ⟨accepted, impossible⟩ := contested.accepted _ _ (List.mem_singleton_self _)
      rw [rejects] at impossible
      cases impossible
  -- only a conflict can lead to a wait, and only a lost answer to another read
  rcases answer with (error | cause) | later
  · cases error with
    | conflict key expected => exact Ending.of_contend concluded
    | _ =>
        obtain ⟨rfl, -⟩ := Operation.yields_throw_iff.mp concluded
        refine ⟨rfl, Nat.le_refl _, Nat.le_refl _, Nat.zero_le _, Or.inl rfl, ?_, by simp, ?_⟩
        · simp only [longestOf, longest_load, longest_write]
          omega
        · intro contested
          obtain ⟨key, expected, impossible⟩ := contested.conflict_of_write
          cases impossible
  · have uncontested : ¬ Contested context change (.load context (.ok (document, version)) ::
        .write context written version (.error (.interrupted cause)) :: rest) := by
      intro contested
      obtain ⟨key, expected, impossible⟩ := contested.conflict_of_write
      cases impossible
    rcases yields_settle concluded with ⟨later, rfl, -⟩ | ⟨answer, rfl, -, -⟩
    · refine ⟨rfl, Nat.le_refl _, Nat.le_refl _, Nat.le_refl _, Or.inl rfl, ?_, by simp,
        fun contested => absurd contested uncontested⟩
      simp only [longestOf, longest_load, longest_write, longest_reread, longest_counted]
      omega
    · refine ⟨rfl, Nat.le_refl _, Nat.le_refl _, Nat.le_refl _, Or.inl rfl, ?_, by simp,
        fun contested => absurd contested uncontested⟩
      simp only [longestOf, longest_load, longest_write, longest_reread, longest_counted]
      omega
  · obtain ⟨behind, rfl, ended⟩ := yields_count_bind_iff.mp concluded
    obtain ⟨rfl, -⟩ := Operation.yields_pure_iff.mp ended
    refine ⟨rfl, Nat.le_refl _, Nat.le_refl _, Nat.zero_le _, Or.inl rfl, ?_, by simp, ?_⟩
    · simp only [longestOf, longest_load, longest_write, longest_counted]
      omega
    · intro contested
      obtain ⟨key, expected, impossible⟩ := contested.conflict_of_write
      cases impossible

/-! ## What the loop costs -/

/-- A change that agrees on all documents that were read is attempted in the same way. -/
theorem Attempts.of_agreeing
    {attempt remaining : Nat} {result : Except RegistryError α} {other : Change α}
    (attempts : Attempts context mutation change attempt remaining history result)
    (agrees : ∀ document ∈ (Expense.ofHistory history).evaluations,
      other document = change document) :
    Attempts context mutation other attempt remaining history result := by
  induction attempts with
  | unread failure => exact .unread failure
  | rejected document version rejects =>
      exact .rejected document version ((agrees document List.mem_cons_self).trans rejects)
  | stored document version later drafted =>
      exact .stored document version later ((agrees document List.mem_cons_self).trans drafted)
  | refused document version error drafted unequal =>
      exact .refused document version error
        ((agrees document List.mem_cons_self).trans drafted) unequal
  | recovered document version later cause drafted =>
      exact .recovered document version later cause
        ((agrees document List.mem_cons_self).trans drafted)
  | doubtful document version cause answer drafted missing =>
      exact .doubtful document version cause answer
        ((agrees document List.mem_cons_self).trans drafted) missing
  | exhausted document version key expected drafted =>
      exact .exhausted document version key expected
        ((agrees document List.mem_cons_self).trans drafted)
  | abandoned document version key expected drafted =>
      exact .abandoned document version key expected
        ((agrees document List.mem_cons_self).trans drafted)
  | again document version key expected drafted remaining inductionHypothesis =>
      exact .again document version key expected
        ((agrees document List.mem_cons_self).trans drafted)
        (inductionHypothesis fun read member => agrees read (List.mem_cons_of_mem _ member))

/-- What a change that was made in a number of attempts has cost. -/
structure WithinBudget (context : Context) (mutation : Mutation) (change : Change α)
    (attempts : Nat) (history : List Exchange) (result : Except RegistryError α) : Prop where
  positive : 1 ≤ attempts
  allowed : attempts ≤ max 1 context.settings.retryPolicy.maxAttempts.toNat
  loads : (Expense.ofHistory history).loads = attempts
  evaluations : (Expense.ofHistory history).evaluations.length ≤ attempts
  evaluatedOnly : ∀ other : Change α,
    (∀ document ∈ (Expense.ofHistory history).evaluations, other document = change document) →
    Operation.Yields (mutate context mutation other) history result
  writes : (Expense.ofHistory history).writes ≤ attempts
  rereads : (Expense.ofHistory history).rereads ≤ 1
  waits : (Expense.ofHistory history).waits = waitsFrom context 1 (attempts - 1) ∨
    (Expense.ofHistory history).waits = waitsFrom context 1 (attempts - 1) ++
        [(context.settings.retryPolicy.interval attempts, false)] ∧
      result = .error (.interrupted .cancelled)
  contested : Contested context change history →
    (attempts = max 1 context.settings.retryPolicy.maxAttempts.toNat ∧
        result = .error (.keptChanging context.key attempts)) ∨
      (.pause context attempts false ∈ history ∧ result = .error (.interrupted .cancelled))

theorem Contested.of_append
    {earlier later : List Exchange} (contested : Contested context change (earlier ++ later)) :
    Contested context change later where
  loaded answer member := contested.loaded answer (List.mem_append_right earlier member)
  accepted document version member :=
    contested.accepted document version (List.mem_append_right earlier member)
  conflicting written version answer member :=
    contested.conflicting written version answer (List.mem_append_right earlier member)

theorem longestOf_le_of_passes
    {rounds : List (List Exchange)} {last : UInt32} {ending : List Exchange}
    {result : Except RegistryError α}
    (passes : Passes context mutation change 1 rounds last)
    (ended : Ending context change last.toNat ending result) :
    longestOf (rounds.flatten ++ ending) ≤
      (2 * last.toNat + 1) * context.settings.callTimeout.ticks +
        (Expense.ofHistory (rounds.flatten ++ ending)).waiting := by
  obtain ⟨counted, -⟩ := passes.number_of_attempt
  obtain ⟨documents, -, -, longest, -⟩ := passes.expense
  have waiting : (Expense.ofHistory (rounds.flatten ++ ending)).waiting =
      (Expense.ofHistory rounds.flatten).waiting + (Expense.ofHistory ending).waiting := by
    simp only [Expense.waiting, Expense.ofHistory_append, List.map_append, List.sum_append]
  have deadlines : (2 * last.toNat + 1) * context.settings.callTimeout.ticks =
      2 * rounds.length * context.settings.callTimeout.ticks +
        3 * context.settings.callTimeout.ticks := by
    rw [counted]
    ring
  have lastly := ended.longest
  rw [longestOf_append, waiting, deadlines, longest]
  omega

/-- What a whole loop costs follows from what its passes cost. -/
theorem withinBudget_of_passes
    {rounds : List (List Exchange)} {last : UInt32} {ending : List Exchange}
    {result : Except RegistryError α}
    (passes : Passes context mutation change 1 rounds last)
    (ended : Ending context change last.toNat ending result)
    (yields : Operation.Yields (mutate context mutation change) (rounds.flatten ++ ending)
      result) :
    WithinBudget context mutation change last.toNat (rounds.flatten ++ ending) result := by
  obtain ⟨counted, allowed⟩ := passes.number_of_attempt
  obtain ⟨documents, sameLength, spent, -, -⟩ := passes.expense
  rw [toNat_one] at spent
  have several : last.toNat - 1 = rounds.length := by omega
  have total := Expense.ofHistory_append rounds.flatten ending
  rw [spent] at total
  refine ⟨by omega, allowed, ?loads, ?evaluations, ?evaluatedOnly, ?writes, ?rereads, ?waits,
    ?contested⟩
  case loads =>
    rw [total, ended.loads]
    simp only
    omega
  case evaluations =>
    have own := ended.evaluations
    rw [total]
    simp only [List.length_append]
    omega
  case evaluatedOnly =>
    intro other agrees
    exact yields_of_attempts ((attempts_of_yields yields).of_agreeing agrees)
  case writes =>
    have own := ended.writes
    rw [total]
    simp only
    omega
  case rereads =>
    have own := ended.rereads
    rw [total]
    simp only
    omega
  case waits =>
    rw [total, several]
    rcases ended.waits with none | ⟨unfinished, cancelled⟩
    · rw [none, List.append_nil]
      exact Or.inl rfl
    · rw [unfinished]
      exact Or.inr ⟨rfl, cancelled⟩
  case contested =>
    intro contested
    rcases ended.contested contested.of_append with ⟨denied, exhausted⟩ | ⟨member, cancelled⟩
    · have reached : ¬ last.toNat < context.settings.retryPolicy.maxAttempts.toNat :=
        of_decide_eq_false denied
      exact Or.inl ⟨by omega, exhausted⟩
    · exact Or.inr ⟨List.mem_append_right _ member, cancelled⟩

theorem unfinished_of_waits
    {waits : List (Duration × Bool)} {duration : Duration}
    (unfinished : (Expense.ofHistory history).waits = waits ++ [(duration, false)]) :
    ⟨.pause duration, false⟩ ∈ history := by
  have member : (duration, false) ∈ (Expense.ofHistory history).waits := by
    rw [unfinished]
    simp
  obtain ⟨exchange, among, found⟩ := List.mem_filterMap.mp member
  unfold Exchange.wait? at found
  split at found
  · cases found
    exact among
  · cases found

/-- When nothing is cut off by cancellation, all waits come to their ends. -/
theorem WithinBudget.of_uncancelled
    {attempts : Nat} {result : Except RegistryError α}
    (budget : WithinBudget context mutation change attempts history result)
    (never : ∀ exchange ∈ history, exchange.isCancelled = false) :
    (Expense.ofHistory history).waits = waitsFrom context 1 (attempts - 1) ∧
      (Contested context change history →
        attempts = max 1 context.settings.retryPolicy.maxAttempts.toNat ∧
          result = .error (.keptChanging context.key attempts)) := by
  constructor
  · rcases budget.waits with finished | ⟨unfinished, -⟩
    · exact finished
    · cases never _ (unfinished_of_waits unfinished)
  · intro contested
    rcases budget.contested contested with exhausted | ⟨unfinished, -⟩
    · exact exhausted
    · cases never _ unfinished

/-- The loop of a change ends within its budget, whatever the store and the change do. -/
theorem mutate_keeps_budget
    (context : Context) (mutation : Mutation) (change : Change α) :
    (∀ rounds last, Passes context mutation change 1 rounds last →
      last.toNat = rounds.length + 1 ∧
        last.toNat ≤ max 1 context.settings.retryPolicy.maxAttempts.toNat) ∧
    (∀ history rest, Program.Leads (mutate context mutation change).run history rest →
      history.length ≤ 4 * max 1 context.settings.retryPolicy.maxAttempts.toNat) ∧
    ∀ clock moments final result,
      Course clock (mutate context mutation change).run moments final result →
      ∃ rounds last ending,
        Passes context mutation change 1 rounds last ∧
        moments.map Moment.exchange = rounds.flatten ++ ending ∧
        Operation.Yields (pass context mutation change last) ending (result.map .inl) ∧
        WithinBudget context mutation change last.toNat (moments.map Moment.exchange) result ∧
        final.now ≤ clock.now +
          ((2 * last.toNat + 1) * context.settings.callTimeout.ticks +
            (Expense.ofHistory (moments.map Moment.exchange)).waiting) ∧
        (final.isCancelled = false →
          (Expense.ofHistory (moments.map Moment.exchange)).waits =
              waitsFrom context 1 (last.toNat - 1) ∧
            (Contested context change (moments.map Moment.exchange) →
              last.toNat = max 1 context.settings.retryPolicy.maxAttempts.toNat ∧
                result = .error (.keptChanging context.key last.toNat))) := by
  refine ⟨fun rounds last passes => passes.number_of_attempt, ?ends, ?accounts⟩
  case ends =>
    intro history rest leads
    obtain ⟨later, result, completed⟩ := leads.exists_completion
    obtain ⟨rounds, last, ending, passes, whole, ended⟩ := yields_mutate_iff_passes.mp completed
    obtain ⟨documents, -, -, -, length⟩ := passes.expense
    obtain ⟨counted, bounded⟩ := passes.number_of_attempt
    have short := (Ending.of_yields ended).length
    have lengths := congrArg List.length whole
    rw [List.length_append, List.length_append, length] at lengths
    omega
  case accounts =>
    intro clock moments final result course
    obtain ⟨rounds, last, ending, passes, whole, ended⟩ :=
      yields_mutate_iff_passes.mp course.yields
    have account := Ending.of_yields ended
    have yields : Operation.Yields (mutate context mutation change)
        (moments.map Moment.exchange) result :=
      course.yields
    have longest := longestOf_le_of_passes passes account
    have passed := course.timed.now_le
    have budget := withinBudget_of_passes passes account (whole ▸ yields)
    rw [← whole] at budget longest
    refine ⟨rounds, last, ending, passes, whole, ended, budget, by omega, ?_⟩
    intro never
    exact budget.of_uncancelled fun exchange member => by
      obtain ⟨moment, among, rfl⟩ := List.mem_map.mp member
      exact course.timed.isCancelled_eq_false never moment among

end Budget

/-! ## A rival that is always faster -/

namespace FasterRival

def context : Context :=
  ⟨{ retryPolicy := { RetryPolicy.standard with maxAttempts := 2 } }, ⟨"default", "sales"⟩⟩

def mutation : Mutation :=
  ⟨.transformFunction, .delete⟩

def change : Change Unit :=
  removeFunction "1"

def document : PipelineDocument :=
  { transformFunctions := [{ id := "1", name := "trim" }] }

def refusal (counter : Int) : Except (CallError StoreError) Version :=
  .error (.failed (.conflict context.key (.ofCounter counter)))

def moments : List Moment :=
  [⟨⟨0, none⟩, .load context (.ok (document, .ofCounter 1))⟩,
    ⟨⟨0, none⟩, .write context {} (.ofCounter 1) (refusal 1)⟩,
    ⟨⟨0, none⟩, .counted .storeConflicts⟩,
    ⟨⟨0, none⟩, .pause context 1 true⟩,
    ⟨⟨10, none⟩, .load context (.ok (document, .ofCounter 2))⟩,
    ⟨⟨10, none⟩, .write context {} (.ofCounter 2) (refusal 2)⟩,
    ⟨⟨13, none⟩, .counted .storeConflicts⟩]

/-- The second write is answered after three milliseconds, behind a wait of ten. -/
theorem course :
    Course {} (mutate context mutation change).run moments ⟨13, none⟩
      (.error (.keptChanging context.key 2)) where
  yields := by
    have attempts : Attempts context mutation change 1 1 (moments.map Moment.exchange)
        (.error (.keptChanging context.key 2)) :=
      .again document (.ofCounter 1) context.key (.ofCounter 1) rfl
        (.exhausted document (.ofCounter 2) context.key (.ofCounter 2) rfl)
    exact yields_of_attempts attempts
  timed := by
    have loaded (now : Nat) (counter : Int) :
        Replies ⟨now, none⟩ (.load context (.ok (document, .ofCounter counter))) ⟨now, none⟩ :=
      Replies.store context.settings.bound (.get context.key) 0
        (.ok (document, .ofCounter counter))
    have refused : Replies ⟨0, none⟩ (.write context {} (.ofCounter 1) (refusal 1)) ⟨0, none⟩ :=
      Replies.store context.settings.bound (.update context.key {} (.ofCounter 1)) 0
        (.error (.conflict context.key (.ofCounter 1)))
    have waited : Replies ⟨0, none⟩ (.pause context 1 true) ⟨10, none⟩ :=
      Replies.waited (context.settings.retryPolicy.interval 1) fun _ impossible =>
        nomatch impossible
    have refusedLater :
        Replies ⟨10, none⟩ (.write context {} (.ofCounter 2) (refusal 2)) ⟨13, none⟩ :=
      Replies.store context.settings.bound (.update context.key {} (.ofCounter 2)) 3
        (.error (.conflict context.key (.ofCounter 2)))
    exact Timed.exchange (loaded 0 1) (Timed.exchange refused
      (Timed.exchange (Replies.counted _) (Timed.exchange waited
        (Timed.exchange (loaded 10 2) (Timed.exchange refusedLater
          (Timed.exchange (Replies.counted _) (Timed.done _)))))))

theorem contested : Contested context change (moments.map Moment.exchange) where
  loaded answer member := by
    simp [moments, Exchange.load, Exchange.write, Exchange.counted, Exchange.pause] at member
    rcases member with rfl | rfl
    · exact ⟨_, rfl⟩
    · exact ⟨_, rfl⟩
  accepted read version member := by
    simp [moments, Exchange.load, Exchange.write, Exchange.counted, Exchange.pause] at member
    rcases member with ⟨rfl, -⟩ | ⟨rfl, -⟩
    · exact ⟨_, rfl⟩
    · exact ⟨_, rfl⟩
  conflicting written version answer member := by
    simp [moments, Exchange.load, Exchange.write, Exchange.counted, Exchange.pause] at member
    rcases member with ⟨⟨rfl, rfl⟩, same⟩ | ⟨⟨rfl, rfl⟩, same⟩
    · exact ⟨_, _, same⟩
    · exact ⟨_, _, same⟩

end FasterRival

theorem mutate_keeps_budget_fasterRival :
    Course {} (mutate FasterRival.context FasterRival.mutation FasterRival.change).run
        FasterRival.moments ⟨13, none⟩ (.error (.keptChanging FasterRival.context.key 2)) ∧
      Contested FasterRival.context FasterRival.change
        (FasterRival.moments.map Moment.exchange) ∧
      ∃ last : UInt32,
        last.toNat = max 1 2 ∧
        WithinBudget FasterRival.context FasterRival.mutation FasterRival.change last.toNat
          (FasterRival.moments.map Moment.exchange)
          (.error (.keptChanging FasterRival.context.key 2)) := by
  obtain ⟨-, -, accounts⟩ :=
    mutate_keeps_budget FasterRival.context FasterRival.mutation FasterRival.change
  obtain ⟨-, last, -, -, -, -, budget, -, uncancelled⟩ := accounts _ _ _ _ FasterRival.course
  exact ⟨FasterRival.course, FasterRival.contested, last,
    ((uncancelled rfl).2 FasterRival.contested).1, budget⟩

end PipelineRegistry
