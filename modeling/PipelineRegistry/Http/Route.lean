import PipelineRegistry.Http.Message

/-!
# Routes

The paths that are served, and the parts of them that are parameters. A parameter at the end of a
path is not empty; in the middle it may be.
-/

namespace PipelineRegistry.Http

/-- The collections of a pipeline. -/
inductive Collection
  | extractSources
  | extractRules
  | extensions
  | transformFunctions
  deriving DecidableEq, Repr

namespace Collection

/-- The name of a collection in a path. -/
def segment : Collection → String
  | extractSources => "extract-sources"
  | extractRules => "extract-rules"
  | extensions => "extensions"
  | transformFunctions => "transform-functions"

/-- All collections. -/
def all : List Collection :=
  [extractSources, extractRules, extensions, transformFunctions]

/-- The collection with a name. -/
def ofSegment? (name : List Char) : Option Collection :=
  all.find? fun collection => collection.segment.toList = name

end Collection

/-- The namespace and the name of a pipeline as they stand in a path. -/
structure EncodedKey where
  namespaceName : List Char
  name : List Char
  deriving DecidableEq, Repr

/-- Something that is served under a path. -/
inductive Route
  | greeting (path : String)
  | pipeline (key : EncodedKey)
  | collection (key : EncodedKey) (which : Collection)
  | entity (key : EncodedKey) (which : Collection) (id : List Char)
  deriving DecidableEq, Repr

namespace Route

/-- The paths under which nothing but a greeting is served. -/
def greetingPaths : List String :=
  ["/", "/_readiness", "/_liveness"]

/-- The template of the path of a pipeline. -/
def pipelineTemplate : String :=
  "/pipelines/:namespace/:name"

/-- The path of a route with names in place of its parameters. -/
def template : Route → String
  | greeting path => path
  | pipeline _ => pipelineTemplate
  | collection _ which => pipelineTemplate ++ "/" ++ which.segment
  | entity _ which _ => pipelineTemplate ++ "/" ++ which.segment ++ "/:id"

/-- The route behind the segments of a path. -/
def ofSegments? : List (List Char) → Option Route
  | [[], root, namespaceName, name] =>
      if root = "pipelines".toList && !name.isEmpty then some (pipeline ⟨namespaceName, name⟩)
      else none
  | [[], root, namespaceName, name, segment] =>
      if root = "pipelines".toList then
        (Collection.ofSegment? segment).map (collection ⟨namespaceName, name⟩)
      else none
  | [[], root, namespaceName, name, segment, id] =>
      if root = "pipelines".toList && !id.isEmpty then
        (Collection.ofSegment? segment).map (entity ⟨namespaceName, name⟩ · id)
      else none
  | _ => none

/-- The route that a path belongs to. -/
def ofPath? (path : List Char) : Option Route :=
  match greetingPaths.find? (·.toList = path) with
  | some greetingPath => some (greeting greetingPath)
  | none => ofSegments? (path.splitOn '/')

end Route

end PipelineRegistry.Http
