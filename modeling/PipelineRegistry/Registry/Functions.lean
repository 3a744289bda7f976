import PipelineRegistry.Registry.Extensions

/-!
# Operations on transform functions

Rules name functions, so a function that gets another name leaves the rules with the old one.
-/

namespace PipelineRegistry.Registry

/-! ## Checks -/

/-- The fields that a function must have. -/
def checkFunction (function : TransformFunction) : Except RegistryError Unit := do
  require "name" function.name
  require "source" function.source

/-! ## Changes -/

/-- Adds a function under a new id. -/
def addFunction (id : String) (function : TransformFunction) : Change Unit := fun document =>
  let record := { function.record with id := id }
  .ok ({ document with transformFunctions := document.transformFunctions ++ [record] }, ())

/-- Replaces the name and the source of the first function with an id. -/
def replaceFunction (id : String) (function : TransformFunction) : Change Unit :=
  fun document => do
    let _ ← found .transformFunction id (document.transformFunctions.find? (·.id == id))
    let replaced := replaceFirst (·.id == id)
      (fun stored => { stored with name := function.name, source := function.source })
      document.transformFunctions
    return ({ document with transformFunctions := replaced }, ())

/-- Removes the first function with an id. -/
def removeFunction (id : String) : Change Unit := fun document => do
  let _ ← found .transformFunction id (document.transformFunctions.find? (·.id == id))
  let remaining := document.transformFunctions.eraseP (·.id == id)
  return ({ document with transformFunctions := remaining }, ())

/-! ## Operations -/

/-- Stores a new function. -/
def createFunction (context : Context) (function : TransformFunction) :
    Operation MutationOutcome := do
  Operation.ofExcept (checkFunction function)
  let id ← Operation.request .freshId
  mutate context ⟨.transformFunction, .create⟩ (addFunction id function)
  return ⟨id, []⟩

/-- Replaces the name and the source of a function. -/
def updateFunction (context : Context) (id : String) (function : TransformFunction) :
    Operation MutationOutcome := do
  Operation.ofExcept (checkFunction function)
  mutate context ⟨.transformFunction, .update⟩ (replaceFunction id function)
  return ⟨id, []⟩

/-- Removes a function. -/
def deleteFunction (context : Context) (id : String) : Operation MutationOutcome := do
  mutate context ⟨.transformFunction, .delete⟩ (removeFunction id)
  return ⟨id, []⟩

/-- Reads a function. -/
def getFunction (context : Context) (id : String) : Operation TransformFunction :=
  inspect context fun document =>
    (found .transformFunction id (document.transformFunctions.find? (·.id == id))).map
      TransformFunctionRecord.entity

/-- Reads all functions. -/
def listFunctions (context : Context) : Operation (List TransformFunction) :=
  inspect context fun document =>
    .ok (document.transformFunctions.map TransformFunctionRecord.entity)

end PipelineRegistry.Registry
