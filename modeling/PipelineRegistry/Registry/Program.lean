import PipelineRegistry.Counter
import PipelineRegistry.Service

/-!
# Programs of requests

An operation of the registry does nothing by itself. It is a program that makes one request after
the other to its surroundings and goes on with the answers: calls to the store and to services,
waits, new ids, and counts. How requests are answered, in what order with those of other programs
and how fast, is left to whoever runs the program.
-/

namespace PipelineRegistry

/-! ## Requests -/

/-- What a store is asked to do. -/
inductive StoreCall
  | get (key : PipelineKey)
  | update (key : PipelineKey) (document : PipelineDocument) (expected : Version)
  | create (key : PipelineKey)
  | delete (key : PipelineKey)
  deriving DecidableEq, Repr

/-- What a store answers when it does what it was asked to do. -/
abbrev StoreCall.Answer : StoreCall → Type
  | get _ => PipelineDocument × Version
  | update _ _ _ => Version
  | create _ => Version
  | delete _ => Unit

/-- What a program may ask of its surroundings. -/
inductive Request
  | store (bound : Bound) (call : StoreCall)
  | service (bound : Bound) (call : ServiceCall)
  | pause (duration : Duration)
  | freshId
  | count (counter : Counter)
  deriving DecidableEq, Repr

/-- The answer to a request. A pause answers whether it came to its end without being cancelled. -/
abbrev Request.Answer : Request → Type
  | store _ call => Except (CallError StoreError) call.Answer
  | service _ call => Except (CallError ServiceError) call.Answer
  | pause _ => Bool
  | freshId => String
  | count _ => Unit

/-! ## Programs -/

/-- A result, or a request and what to do with its answer. -/
inductive Program (α : Type) : Type
  | done (result : α)
  | ask (request : Request) (next : request.Answer → Program α)

namespace Program

variable {α β : Type}

/-- One program after the other. -/
def bind : Program α → (α → Program β) → Program β
  | done result, next => next result
  | ask request continuation, next => ask request fun answer => bind (continuation answer) next

instance : Monad Program where
  pure := done
  bind := bind

/-- The program that makes one request and gives its answer. -/
def request (request : Request) : Program request.Answer :=
  ask request done

theorem bind_done (program : Program α) : bind program done = program := by
  induction program with
  | done result => rfl
  | ask request next inductionHypothesis =>
      rw [bind]
      exact congrArg (ask request) (funext inductionHypothesis)

theorem bind_assoc {γ : Type} (program : Program α) (middle : α → Program β)
    (last : β → Program γ) :
    bind (bind program middle) last = bind program fun result => bind (middle result) last := by
  induction program with
  | done result => rfl
  | ask request next inductionHypothesis =>
      simp only [bind]
      exact congrArg (ask request) (funext inductionHypothesis)

end Program

/-- A program that ends with a result or with an error of the registry. -/
abbrev Operation (α : Type) : Type :=
  ExceptT RegistryError Program α

namespace Operation

/-- An operation that makes one request. -/
def request (request : Request) : Operation request.Answer :=
  ExceptT.lift (Program.request request)

/-- An operation that fails when a check has failed. -/
def ofExcept {α : Type} (result : Except RegistryError α) : Operation α :=
  ExceptT.mk (Program.done result)

end Operation

end PipelineRegistry
