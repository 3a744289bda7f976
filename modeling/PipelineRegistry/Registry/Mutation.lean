import PipelineRegistry.Registry.Program
import PipelineRegistry.RetryPolicy

/-!
# Changes of a document

A change is a function on documents. It is applied to the document that is read and written back
under the version that was read with it. When another writer was faster, the change is applied again
to what is stored then, as often as the retry policy allows. When the answer to a write is lost, the
document is read once more to see whether it is the one that was to be written.
-/

namespace PipelineRegistry

/-! ## Settings -/

/-- How the registry works: when it tries again, how long a call may take, whether rules may name
functions that do not exist, and whether there is a service that measures sources. -/
structure RegistrySettings where
  retryPolicy : RetryPolicy := .standard
  callTimeout : Duration := .ofSeconds 5
  enforceFunctionReferences : Bool := false
  measuresSources : Bool := false
  deriving DecidableEq, Repr

namespace RegistrySettings

/-- The bound of calls that are made for a request. -/
def bound (settings : RegistrySettings) : Bound :=
  ⟨settings.callTimeout, true⟩

/-- The bound of a call that goes on when its request is cancelled. -/
def unheedingBound (settings : RegistrySettings) : Bound :=
  ⟨settings.callTimeout, false⟩

end RegistrySettings

/-- The pipeline that a request addresses, and the settings it is served under. -/
structure Context where
  settings : RegistrySettings
  key : PipelineKey
  deriving DecidableEq, Repr

/-- A change gives the new document and a result, or it is rejected. -/
abbrev Change (α : Type) : Type :=
  PipelineDocument → Except RegistryError (PipelineDocument × α)

/-- What kind of change is made to what kind of entity. -/
structure Mutation where
  entity : EntityKind
  kind : MutationKind
  deriving DecidableEq, Repr

namespace Registry

/-! ## Calls to the store -/

/-- Reads the addressed document. -/
def load (context : Context) : Operation (PipelineDocument × Version) := do
  match ← Operation.request (.store context.settings.bound (.get context.key)) with
  | .ok loaded => return loaded
  | .error error => throw (.ofCall error)

/-- Asks for a document to be written under the version it was read with. -/
def write (context : Context) (document : PipelineDocument) (expected : Version) :
    Operation (Except (CallError StoreError) Version) :=
  Operation.request (.store context.settings.bound (.update context.key document expected))

/-- Counts once. -/
def count (counter : Counter) : Operation Unit :=
  Operation.request (.count counter)

/-- After a write whose answer was lost, the stored document is the one that was to be written. The
request may have been cancelled already, so this read does not heed it. -/
def writeLanded (context : Context) (written : PipelineDocument) : Operation Bool := do
  match ← Operation.request (.store context.settings.unheedingBound (.get context.key)) with
  | .ok (stored, _) => return stored = written
  | .error _ => return false

/-! ## The loop of attempts -/

/-- What is done after a write whose answer was lost. -/
def settle {α : Type} (context : Context) (mutation : Mutation) (written : PipelineDocument)
    (output : α) (cause : Interruption) : Operation α := do
  if ← writeLanded context written then
    count (.mutations mutation.entity mutation.kind)
    return output
  else
    count .unknownWriteOutcomes
    throw (.unknownOutcome cause)

/-- Makes an attempt, and as many more as remain while other writers are faster. Attempts are
counted from one. -/
def attempt {α : Type} (context : Context) (mutation : Mutation) (change : Change α)
    (number : Nat) (remaining : Nat) : Operation α := do
  let (document, version) ← load context
  let (changed, output) ← Operation.ofExcept (change document)
  match ← write context changed version with
  | .ok _ =>
      count (.mutations mutation.entity mutation.kind)
      return output
  | .error (.failed (.conflict _ _)) =>
      count .storeConflicts
      match remaining with
      | 0 => throw (.keptChanging context.key number)
      | fewer + 1 =>
          let waited : Bool ←
            Operation.request (.pause (context.settings.retryPolicy.interval number))
          if waited then attempt context mutation change (number + 1) fewer
          else throw (.interrupted .cancelled)
  | .error (.failed error) => throw (.ofStore error)
  | .error (.interrupted cause) => settle context mutation changed output cause

/-- Applies a change to the addressed document. There is at least one attempt. -/
def mutate {α : Type} (context : Context) (mutation : Mutation) (change : Change α) :
    Operation α :=
  attempt context mutation change 1 (context.settings.retryPolicy.maxAttempts.toNat - 1)

/-- Reads the addressed document and looks something up in it. -/
def inspect {α : Type} (context : Context)
    (look : PipelineDocument → Except RegistryError α) : Operation α := do
  let (document, _) ← load context
  Operation.ofExcept (look document)

/-! ## Checks -/

/-- A field must hold more than blanks. -/
def require (name value : String) : Except RegistryError Unit :=
  if Text.isBlankText value then .error (.invalid (.missingField name)) else .ok ()

/-- The entity that was looked up, or an error that names it. -/
def found {α : Type} (kind : EntityKind) (id : String) : Option α → Except RegistryError α
  | some entity => .ok entity
  | none => .error (.notFound kind id)

end Registry

end PipelineRegistry
