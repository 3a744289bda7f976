import PipelineRegistry.Registry.Mutation

/-!
# Notices to the runtime

After a change of sources the runtime is told. The change is stored already, so a notice that fails
is reported beside the result and does not fail the operation.
-/

namespace PipelineRegistry.Registry

/-- Makes a notice and reports it if it fails. -/
def notify (context : Context) (effect : SideEffect) (call : ServiceCall) :
    Operation (List SideEffectError) := do
  match ← Operation.request (.service context.settings.bound call) with
  | .ok _ => return []
  | .error error =>
      count (.sideEffectFailures effect)
      return [⟨effect, error.message ServiceError.message⟩]

/-- Tells the runtime to read the sources again. -/
def sourcesChanged (context : Context) : Operation (List SideEffectError) :=
  notify context .refreshSources (.refreshSources context.key)

/-- Tells the runtime to read the sources again and to stop the workers of one that was removed.
Each notice is made whether or not the other one fails. -/
def sourceRemoved (context : Context) (sourceName : String) :
    Operation (List SideEffectError) := do
  let refreshed ← sourcesChanged context
  let terminated ←
    notify context .terminateWorkers (.terminateWorkers context.key (workerSelector sourceName))
  return refreshed ++ terminated

end PipelineRegistry.Registry
