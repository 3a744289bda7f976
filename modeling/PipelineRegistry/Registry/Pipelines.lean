import PipelineRegistry.Registry.Mutation

/-!
# Operations on whole pipelines
-/

namespace PipelineRegistry.Registry

/-- Stores an empty pipeline. -/
def createPipeline (context : Context) : Operation Pipeline := do
  match ← Operation.request (.store context.settings.bound (.create context.key)) with
  | .ok version => return PipelineDocument.pipeline {} context.key version.token
  | .error error => throw (.ofCall error)

/-- Reads a pipeline. -/
def getPipeline (context : Context) : Operation Pipeline := do
  let (document, version) ← load context
  return document.pipeline context.key version.token

/-- Removes a pipeline with everything in it. -/
def deletePipeline (context : Context) : Operation Unit := do
  match ← Operation.request (.store context.settings.bound (.delete context.key)) with
  | .ok _ => return ()
  | .error error => throw (.ofCall error)

end PipelineRegistry.Registry
