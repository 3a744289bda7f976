import PipelineRegistry.Registry.Mutation

/-!
# Operations on extensions

An extension stays bound to its source.
-/

namespace PipelineRegistry.Registry

/-! ## Lists -/

/-- A list with the first element that satisfies a condition changed. -/
def replaceFirst {α : Type} (matching : α → Bool) (change : α → α) : List α → List α
  | [] => []
  | first :: rest =>
      if matching first then change first :: rest else first :: replaceFirst matching change rest

/-! ## Checks -/

/-- The fields that a new extension must have. -/
def checkNewExtension (extension : Extension) : Except RegistryError Unit := do
  require "extractSourceId" extension.extractSourceId
  require "name" extension.name
  require "path" extension.path

/-- The fields that an extension must have when it replaces another. -/
def checkReplacingExtension (extension : Extension) : Except RegistryError Unit := do
  require "name" extension.name
  require "path" extension.path

/-! ## Changes -/

/-- Adds an extension under a new id. -/
def addExtension (id : String) (extension : Extension) : Change Unit := fun document =>
  let record := { extension.record with id := id }
  .ok ({ document with extensions := document.extensions ++ [record] }, ())

/-- Replaces the name and the path of the first extension with an id. -/
def replaceExtension (id : String) (extension : Extension) : Change Unit := fun document => do
  let _ ← found .extension id (document.extensions.find? (·.id == id))
  let replaced := replaceFirst (·.id == id)
    (fun stored => { stored with name := extension.name, path := extension.path })
    document.extensions
  return ({ document with extensions := replaced }, ())

/-- Removes the first extension with an id. -/
def removeExtension (id : String) : Change Unit := fun document => do
  let _ ← found .extension id (document.extensions.find? (·.id == id))
  return ({ document with extensions := document.extensions.eraseP (·.id == id) }, ())

/-! ## Operations -/

/-- Stores a new extension. -/
def createExtension (context : Context) (extension : Extension) : Operation MutationOutcome := do
  Operation.ofExcept (checkNewExtension extension)
  let id ← Operation.request .freshId
  mutate context ⟨.extension, .create⟩ (addExtension id extension)
  return ⟨id, []⟩

/-- Replaces the name and the path of an extension. -/
def updateExtension (context : Context) (id : String) (extension : Extension) :
    Operation MutationOutcome := do
  Operation.ofExcept (checkReplacingExtension extension)
  mutate context ⟨.extension, .update⟩ (replaceExtension id extension)
  return ⟨id, []⟩

/-- Removes an extension. -/
def deleteExtension (context : Context) (id : String) : Operation MutationOutcome := do
  mutate context ⟨.extension, .delete⟩ (removeExtension id)
  return ⟨id, []⟩

/-- Reads an extension. -/
def getExtension (context : Context) (id : String) : Operation Extension :=
  inspect context fun document =>
    (found .extension id (document.extensions.find? (·.id == id))).map ExtensionRecord.entity

/-- Reads all extensions. -/
def listExtensions (context : Context) : Operation (List Extension) :=
  inspect context fun document => .ok (document.extensions.map ExtensionRecord.entity)

end PipelineRegistry.Registry
