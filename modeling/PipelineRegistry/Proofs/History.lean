import PipelineRegistry.Registry.Program

/-!
# Histories of programs

A program that runs makes requests and goes on with the answers. Its history is the list of both.
What a program does under every behaviour of its surroundings is what holds of all its histories,
so statements about operations are statements about the lists that `Operation.Yields` relates to
their results.
-/

namespace PipelineRegistry

/-- A request that was made, with its answer. -/
structure Exchange where
  request : Request
  answer : request.Answer

namespace Program

variable {α β : Type}

/-! ## Partial histories -/

/-- `Leads program history rest` means that the program has come as far as
`rest` when these exchanges have been made. -/
inductive Leads : Program α → List Exchange → Program α → Prop
  | refl (program : Program α) :
      Leads program [] program
  | ask {request : Request} {next : request.Answer → Program α}
      (answer : request.Answer) {history : List Exchange} {rest : Program α} :
      Leads (next answer) history rest →
      Leads (.ask request next) (⟨request, answer⟩ :: history) rest

namespace Leads

theorem trans
    {program middle rest : Program α} {earlier later : List Exchange}
    (first : Leads program earlier middle) (second : Leads middle later rest) :
    Leads program (earlier ++ later) rest := by
  induction first with
  | refl program =>
      exact second
  | ask answer _ inductionHypothesis =>
      exact Leads.ask answer (inductionHypothesis second)

theorem extend
    {program : Program α} {history : List Exchange} {request : Request}
    {next : request.Answer → Program α}
    (leads : Leads program history (.ask request next)) (answer : request.Answer) :
    Leads program (history ++ [⟨request, answer⟩]) (next answer) :=
  leads.trans (Leads.ask answer (Leads.refl (next answer)))

end Leads

/-! ## Complete histories -/

/-- `Yields program history result` means that the program ends with the result
when exactly these exchanges have been made. -/
def Yields (program : Program α) (history : List Exchange) (result : α) : Prop :=
  Leads program history (.done result)

theorem yields_done_iff
    {value result : α} {history : List Exchange} :
    Yields (.done value) history result ↔ history = [] ∧ result = value := by
  constructor
  · intro yields
    cases yields
    exact ⟨rfl, rfl⟩
  · rintro ⟨rfl, rfl⟩
    exact Leads.refl (.done result)

theorem yields_ask_iff
    {request : Request} {next : request.Answer → Program α}
    {history : List Exchange} {result : α} :
    Yields (.ask request next) history result ↔
      ∃ answer rest,
        history = ⟨request, answer⟩ :: rest ∧ Yields (next answer) rest result := by
  constructor
  · intro yields
    cases yields with
    | ask answer leads => exact ⟨answer, _, rfl, leads⟩
  · rintro ⟨answer, rest, rfl, yields⟩
    exact Leads.ask answer yields

/-- A history of two programs in a row is a history of the first and then one
of the second. -/
theorem yields_bind_iff
    {program : Program α} {next : α → Program β}
    {history : List Exchange} {result : β} :
    Yields (bind program next) history result ↔
      ∃ earlier later value,
        history = earlier ++ later ∧
          Yields program earlier value ∧ Yields (next value) later result := by
  induction program generalizing history with
  | done value =>
      constructor
      · intro yields
        exact ⟨[], history, value, rfl, Leads.refl (.done value), yields⟩
      · rintro ⟨earlier, later, found, rfl, first, second⟩
        obtain ⟨rfl, rfl⟩ := yields_done_iff.mp first
        exact second
  | ask request continuation inductionHypothesis =>
      constructor
      · intro yields
        obtain ⟨answer, rest, rfl, tail⟩ := yields_ask_iff.mp yields
        obtain ⟨earlier, later, value, rfl, first, second⟩ :=
          (inductionHypothesis answer).mp tail
        exact ⟨⟨request, answer⟩ :: earlier, later, value, rfl,
          Leads.ask answer first, second⟩
      · rintro ⟨earlier, later, value, rfl, first, second⟩
        obtain ⟨answer, rest, rfl, tail⟩ := yields_ask_iff.mp first
        apply yields_ask_iff.mpr
        refine ⟨answer, rest ++ later, rfl, ?_⟩
        exact (inductionHypothesis answer).mpr ⟨rest, later, value, rfl, tail, second⟩

def anyAnswer : (request : Request) → request.Answer
  | .store _ _ => .error (.interrupted .cancelled)
  | .service _ _ => .error (.interrupted .cancelled)
  | .pause _ => false
  | .freshId => ""
  | .count _ => ()

theorem exists_yields (program : Program α) :
    ∃ history result, Yields program history result := by
  induction program with
  | done value =>
      exact ⟨[], value, Leads.refl (.done value)⟩
  | ask request next inductionHypothesis =>
      obtain ⟨history, result, yields⟩ := inductionHypothesis (anyAnswer request)
      exact ⟨⟨request, anyAnswer request⟩ :: history, result,
        Leads.ask (anyAnswer request) yields⟩

/-- Every program can come to its end from wherever it is, so what holds of the
beginnings of complete histories holds of all partial ones. -/
theorem Leads.exists_completion
    {program rest : Program α} {history : List Exchange}
    (leads : Leads program history rest) :
    ∃ later result, Yields program (history ++ later) result := by
  obtain ⟨later, result, yields⟩ := exists_yields rest
  exact ⟨later, result, leads.trans yields⟩

/-- On its way to a result, a program makes the next of its exchanges. -/
theorem Yields.leads
    {program : Program α} {before after : List Exchange} {exchange : Exchange} {result : α}
    (yields : Yields program (before ++ exchange :: after) result) :
    ∃ next, Leads program before (.ask exchange.request next) := by
  induction before generalizing program with
  | nil =>
      cases yields with
      | ask answer rest => exact ⟨_, Leads.refl _⟩
  | cons first earlier inductionHypothesis =>
      cases yields with
      | ask answer rest =>
          obtain ⟨next, leads⟩ := inductionHypothesis rest
          exact ⟨next, Leads.ask answer leads⟩

instance : LawfulMonad Program :=
  LawfulMonad.mk' Program bind_done (fun _ _ => rfl) fun program middle last =>
    bind_assoc program middle last

end Program

/-! ## Histories of operations -/

namespace Operation

variable {α β : Type}

/-- The histories of an operation that ends with a result or an error. -/
def Yields (operation : Operation α) (history : List Exchange)
    (result : Except RegistryError α) : Prop :=
  Program.Yields operation.run history result

theorem yields_pure_iff
    {value : α} {history : List Exchange} {result : Except RegistryError α} :
    Yields (pure value) history result ↔ history = [] ∧ result = .ok value :=
  Program.yields_done_iff

theorem yields_throw_iff
    {error : RegistryError} {history : List Exchange} {result : Except RegistryError α} :
    Yields (throw error) history result ↔ history = [] ∧ result = .error error :=
  Program.yields_done_iff

theorem yields_ofExcept_iff
    {checked result : Except RegistryError α} {history : List Exchange} :
    Yields (ofExcept checked) history result ↔ history = [] ∧ result = checked :=
  Program.yields_done_iff

theorem yields_request_iff
    {asked : Request} {history : List Exchange}
    {result : Except RegistryError asked.Answer} :
    Yields (request asked) history result ↔
      ∃ answer, history = [⟨asked, answer⟩] ∧ result = .ok answer := by
  unfold Yields request
  change Program.Yields (.ask asked fun answer => .done (.ok answer)) history result ↔ _
  rw [Program.yields_ask_iff]
  constructor
  · rintro ⟨answer, rest, rfl, yields⟩
    obtain ⟨rfl, rfl⟩ := Program.yields_done_iff.mp yields
    exact ⟨answer, rfl, rfl⟩
  · rintro ⟨answer, rfl, rfl⟩
    exact ⟨answer, [], rfl, Program.yields_done_iff.mpr ⟨rfl, rfl⟩⟩

/-- An operation behind another one is not begun when the first one fails. -/
theorem yields_bind_iff
    {operation : Operation α} {next : α → Operation β}
    {history : List Exchange} {result : Except RegistryError β} :
    Yields (operation >>= next) history result ↔
      (∃ error, Yields operation history (.error error) ∧ result = .error error) ∨
        ∃ earlier later value,
          history = earlier ++ later ∧
            Yields operation earlier (.ok value) ∧ Yields (next value) later result := by
  unfold Yields
  change Program.Yields (Program.bind operation.run (ExceptT.bindCont next)) history result ↔ _
  rw [Program.yields_bind_iff]
  constructor
  · rintro ⟨earlier, later, value | value, rfl, first, second⟩
    · obtain ⟨rfl, rfl⟩ := Program.yields_done_iff.mp second
      exact Or.inl ⟨value, by simpa using first, rfl⟩
    · exact Or.inr ⟨earlier, later, value, rfl, first, second⟩
  · rintro (⟨error, first, rfl⟩ | ⟨earlier, later, value, rfl, first, second⟩)
    · exact ⟨history, [], .error error, by simp, first,
        Program.yields_done_iff.mpr ⟨rfl, rfl⟩⟩
    · exact ⟨earlier, later, .ok value, rfl, first, second⟩

theorem yields_request_bind_iff
    {asked : Request} {next : asked.Answer → Operation β}
    {history : List Exchange} {result : Except RegistryError β} :
    Yields (request asked >>= next) history result ↔
      ∃ answer rest,
        history = ⟨asked, answer⟩ :: rest ∧ Yields (next answer) rest result := by
  rw [yields_bind_iff]
  constructor
  · rintro (⟨error, first, rfl⟩ | ⟨earlier, later, value, rfl, first, second⟩)
    · obtain ⟨answer, -, impossible⟩ := yields_request_iff.mp first
      cases impossible
    · obtain ⟨answer, rfl, same⟩ := yields_request_iff.mp first
      cases same
      exact ⟨value, later, rfl, second⟩
  · rintro ⟨answer, rest, rfl, second⟩
    exact Or.inr ⟨[⟨asked, answer⟩], rest, answer, rfl,
      yields_request_iff.mpr ⟨answer, rfl, rfl⟩, second⟩

theorem yields_map_iff
    {operation : Operation α} {change : α → β}
    {history : List Exchange} {result : Except RegistryError β} :
    Yields (change <$> operation) history result ↔
      ∃ before, Yields operation history before ∧ result = before.map change := by
  rw [← bind_pure_comp, yields_bind_iff]
  constructor
  · rintro (⟨error, first, rfl⟩ | ⟨earlier, later, value, rfl, first, second⟩)
    · exact ⟨.error error, first, rfl⟩
    · obtain ⟨rfl, rfl⟩ := yields_pure_iff.mp second
      exact ⟨.ok value, by simpa using first, rfl⟩
  · rintro ⟨error | value, first, rfl⟩
    · exact Or.inl ⟨error, first, rfl⟩
    · exact Or.inr ⟨history, [], value, by simp, first, yields_pure_iff.mpr ⟨rfl, rfl⟩⟩

end Operation

end PipelineRegistry
