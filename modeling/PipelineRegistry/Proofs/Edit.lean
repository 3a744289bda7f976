import PipelineRegistry.Proofs.History
import PipelineRegistry.Registry.Functions
import PipelineRegistry.Registry.Rules
import PipelineRegistry.Registry.Sources

/-!
# Edits of a document

Clients change a document by twelve operations, three for each kind of entity. All of them have one
form: check the fields, ask for an id if the entity is new, change the document, and make the
notices that the change calls for. `Edit.operation_eq` says so, and whatever is proved about that
form holds of all twelve.
-/

namespace PipelineRegistry

open Registry

/-! ## One form of change -/

/-- A notice to the runtime and the effect it is to have. -/
structure Notice where
  effect : SideEffect
  call : ServiceCall
  deriving DecidableEq, Repr

/-- What a change leaves to be done: the id to answer with, and the notices to
make. -/
structure Receipt where
  id : String
  notices : List Notice
  deriving DecidableEq, Repr

/-- The change whose result is made into a receipt. -/
def Change.reporting {α : Type} (change : Change α) (receipt : α → Receipt) :
    Change Receipt :=
  fun document => (change document).map fun (changed, output) => (changed, receipt output)

/-- Something a client asks to be changed in a document. -/
inductive Edit
  | createSource (source : ExtractSource)
  | updateSource (id : String) (source : ExtractSource)
  | deleteSource (id : String) (mode : DeleteMode)
  | createRule (rule : ExtractRule)
  | updateRule (id : String) (rule : ExtractRule)
  | deleteRule (id : String)
  | createExtension (extension : Extension)
  | updateExtension (id : String) (extension : Extension)
  | deleteExtension (id : String)
  | createFunction (function : TransformFunction)
  | updateFunction (id : String) (function : TransformFunction)
  | deleteFunction (id : String)
  deriving DecidableEq, Repr

namespace Edit

def operation (context : Context) : Edit → Operation MutationOutcome
  | createSource source => Registry.createSource context source
  | updateSource id source => Registry.updateSource context id source
  | deleteSource id mode => Registry.deleteSource context id mode
  | createRule rule => Registry.createRule context rule
  | updateRule id rule => Registry.updateRule context id rule
  | deleteRule id => Registry.deleteRule context id
  | createExtension extension => Registry.createExtension context extension
  | updateExtension id extension => Registry.updateExtension context id extension
  | deleteExtension id => Registry.deleteExtension context id
  | createFunction function => Registry.createFunction context function
  | updateFunction id function => Registry.updateFunction context id function
  | deleteFunction id => Registry.deleteFunction context id

/-- What kind of change an edit makes to what kind of entity. -/
def mutation : Edit → Mutation
  | createSource _ => ⟨.extractSource, .create⟩
  | updateSource _ _ => ⟨.extractSource, .update⟩
  | deleteSource _ _ => ⟨.extractSource, .delete⟩
  | createRule _ => ⟨.extractRule, .create⟩
  | updateRule _ _ => ⟨.extractRule, .update⟩
  | deleteRule _ => ⟨.extractRule, .delete⟩
  | createExtension _ => ⟨.extension, .create⟩
  | updateExtension _ _ => ⟨.extension, .update⟩
  | deleteExtension _ => ⟨.extension, .delete⟩
  | createFunction _ => ⟨.transformFunction, .create⟩
  | updateFunction _ _ => ⟨.transformFunction, .update⟩
  | deleteFunction _ => ⟨.transformFunction, .delete⟩

/-- The edit makes a new entity, which gets a new id. -/
def isCreation (edit : Edit) : Bool :=
  edit.mutation.kind = .create

/-- What the fields of an edit must satisfy, whatever the document. -/
def check : Edit → Except RegistryError Unit
  | createSource source => checkSource source
  | updateSource _ source => checkSource source
  | createRule rule => checkNewRule rule
  | updateRule _ rule => checkReplacingRule rule
  | createExtension extension => checkNewExtension extension
  | updateExtension _ extension => checkReplacingExtension extension
  | createFunction function => checkFunction function
  | updateFunction _ function => checkFunction function
  | deleteSource _ _ | deleteRule _ | deleteExtension _ | deleteFunction _ => .ok ()

def refreshNotice (context : Context) : Notice :=
  ⟨.refreshSources, .refreshSources context.key⟩

def terminateNotice (context : Context) (sourceName : String) : Notice :=
  ⟨.terminateWorkers, .terminateWorkers context.key (workerSelector sourceName)⟩

/-- What an edit does to a document. Only a new entity has use for the new
id. -/
def change (context : Context) (newId : String) : Edit → Change Receipt
  | createSource source =>
      (addSource newId source).reporting fun _ => ⟨newId, [refreshNotice context]⟩
  | updateSource id source =>
      (replaceSource id source).reporting fun _ => ⟨id, [refreshNotice context]⟩
  | deleteSource id mode =>
      (removeSource id mode).reporting fun removed =>
        ⟨removed.id, [refreshNotice context, terminateNotice context removed.name]⟩
  | createRule rule =>
      (addRule context.settings.enforceFunctionReferences newId rule).reporting
        fun _ => ⟨newId, []⟩
  | updateRule id rule =>
      (replaceRule context.settings.enforceFunctionReferences id rule).reporting
        fun _ => ⟨id, []⟩
  | deleteRule id => (removeRule id).reporting fun _ => ⟨id, []⟩
  | createExtension extension =>
      (addExtension newId extension).reporting fun _ => ⟨newId, []⟩
  | updateExtension id extension =>
      (replaceExtension id extension).reporting fun _ => ⟨id, []⟩
  | deleteExtension id => (removeExtension id).reporting fun _ => ⟨id, []⟩
  | createFunction function =>
      (addFunction newId function).reporting fun _ => ⟨newId, []⟩
  | updateFunction id function =>
      (replaceFunction id function).reporting fun _ => ⟨id, []⟩
  | deleteFunction id => (removeFunction id).reporting fun _ => ⟨id, []⟩

/-- A new id for an entity that is new, and none for any other. -/
def nameNew (edit : Edit) : Operation String :=
  if edit.isCreation then Operation.request .freshId else pure ""

/-- Makes notices one after the other and gathers those that fail. -/
def notifyAll (context : Context) : List Notice → Operation (List SideEffectError)
  | [] => pure []
  | notice :: rest => do
      let failures ← notify context notice.effect notice.call
      return failures ++ (← notifyAll context rest)

/-- The one form that all edits have. -/
def perform (context : Context) (edit : Edit) : Operation MutationOutcome := do
  Operation.ofExcept edit.check
  let newId ← edit.nameNew
  let receipt ← mutate context edit.mutation (edit.change context newId)
  return ⟨receipt.id, ← notifyAll context receipt.notices⟩

end Edit

/-! ## The loop of attempts, one part at a time -/

namespace Registry

variable {α : Type}

def retry (context : Context) (mutation : Mutation) (change : Change α)
    (number : Nat) : Nat → Operation α
  | 0 => do
      count .storeConflicts
      throw (.keptChanging context.key number)
  | fewer + 1 => do
      count .storeConflicts
      let waited : Bool ←
        Operation.request (.pause (context.settings.retryPolicy.interval number))
      if waited then attempt context mutation change (number + 1) fewer
      else throw (.interrupted .cancelled)

def conclude (context : Context) (mutation : Mutation) (written : PipelineDocument)
    (output : α) (conflicted : Operation α) :
    Except (CallError StoreError) Version → Operation α
  | .ok _ => do
      count (.mutations mutation.entity mutation.kind)
      return output
  | .error (.failed (.conflict _ _)) => conflicted
  | .error (.failed error) => throw (.ofStore error)
  | .error (.interrupted cause) => settle context mutation written output cause

theorem attempt_eq
    (context : Context) (mutation : Mutation) (change : Change α)
    (number remaining : Nat) :
    attempt context mutation change number remaining = (do
      let (document, version) ← load context
      let (written, output) ← Operation.ofExcept (change document)
      let answer ← write context written version
      conclude context mutation written output
        (retry context mutation change number remaining) answer) := by
  cases remaining
  all_goals
    rw [attempt]
    congr 1

/-! ## All edits have the form -/

theorem settle_map
    (context : Context) (mutation : Mutation) (written : PipelineDocument)
    (output : α) (cause : Interruption) (receipt : α → Receipt) :
    settle context mutation written (receipt output) cause =
      receipt <$> settle context mutation written output cause := by
  unfold settle
  rw [map_bind]
  congr 1
  funext landed
  cases landed
  · simp only [Bool.false_eq_true, ↓reduceIte, map_bind]
    rfl
  · simp only [↓reduceIte, map_bind, map_pure]

theorem conclude_map
    (context : Context) (mutation : Mutation) (written : PipelineDocument)
    (output : α) (conflicted : Operation α) (receipt : α → Receipt)
    (answer : Except (CallError StoreError) Version) :
    conclude context mutation written (receipt output) (receipt <$> conflicted) answer =
      receipt <$> conclude context mutation written output conflicted answer := by
  rcases answer with (error | cause) | later
  · cases error <;> rfl
  · exact settle_map context mutation written output cause receipt
  · simp only [conclude, map_bind, map_pure]

theorem attempt_reporting_of_retry
    (context : Context) (mutation : Mutation) (change : Change α)
    (receipt : α → Receipt) (number remaining : Nat)
    (retried :
      retry context mutation (change.reporting receipt) number remaining =
        receipt <$> retry context mutation change number remaining) :
    attempt context mutation (change.reporting receipt) number remaining =
      receipt <$> attempt context mutation change number remaining := by
  rw [attempt_eq, attempt_eq, retried, map_bind]
  congr 1
  funext loaded
  obtain ⟨document, version⟩ := loaded
  cases changed : change document with
  | error error =>
      simp only [Change.reporting, changed, Except.map]
      rfl
  | ok result =>
      obtain ⟨written, output⟩ := result
      simp only [Change.reporting, changed, Except.map]
      change (write context written version >>= _) =
        receipt <$> (write context written version >>= _)
      rw [map_bind]
      congr 1
      funext answer
      exact conclude_map context mutation written output _ receipt answer

/-- What becomes of the result of a change does not matter to the loop. -/
theorem attempt_reporting
    (context : Context) (mutation : Mutation) (change : Change α)
    (receipt : α → Receipt) (number remaining : Nat) :
    attempt context mutation (change.reporting receipt) number remaining =
      receipt <$> attempt context mutation change number remaining := by
  induction remaining generalizing number with
  | zero =>
      apply attempt_reporting_of_retry
      rfl
  | succ fewer inductionHypothesis =>
      apply attempt_reporting_of_retry
      simp only [retry, map_bind]
      congr 1
      funext counted
      congr 1
      funext waited
      cases waited
      · rfl
      · exact inductionHypothesis (number + 1)

theorem mutate_reporting
    (context : Context) (mutation : Mutation) (change : Change α)
    (receipt : α → Receipt) :
    mutate context mutation (change.reporting receipt) =
      receipt <$> mutate context mutation change :=
  attempt_reporting context mutation change receipt 1 _

end Registry

namespace Edit

theorem notifyAll_nil (context : Context) : notifyAll context [] = pure [] :=
  rfl

theorem sourcesChanged_eq (context : Context) :
    sourcesChanged context = notifyAll context [refreshNotice context] := by
  simp only [notifyAll, refreshNotice, sourcesChanged, pure_bind, List.append_nil, bind_pure]

theorem sourceRemoved_eq (context : Context) (sourceName : String) :
    sourceRemoved context sourceName =
      notifyAll context [refreshNotice context, terminateNotice context sourceName] := by
  simp only [notifyAll, refreshNotice, terminateNotice, sourceRemoved, sourcesChanged,
    pure_bind, bind_pure, List.append_nil]

/-- Every edit is served by the one form. -/
theorem operation_eq (context : Context) (edit : Edit) :
    edit.operation context = edit.perform context := by
  have unchecked : Operation.ofExcept (.ok ()) = (pure () : Operation Unit) := rfl
  cases edit
  all_goals
    simp only [operation, perform, check, change, mutate_reporting, nameNew, isCreation,
      mutation, bind_map_left, reduceCtorEq, decide_true, decide_false, Bool.false_eq_true,
      ↓reduceIte, pure_bind, unchecked, notifyAll_nil, ← sourcesChanged_eq, ← sourceRemoved_eq]
    rfl

end Edit

end PipelineRegistry
