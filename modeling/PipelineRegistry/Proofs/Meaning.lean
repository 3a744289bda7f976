import PipelineRegistry.Http.Handler
import PipelineRegistry.Proofs.Command

/-!
# What requests mean

A request that is served and understood stands for one command of the registry. Its answer is then
read off the result of the command: the status of success that belongs to the command, or the
refusal that belongs to the error. All other requests are answered without asking the registry.
-/

namespace PipelineRegistry.Http

open Registry

/-! ## Commands on collections -/

namespace Collection

def creation : (which : Collection) → (resource which).Entity → Edit
  | extractSources, source => .createSource source
  | extractRules, rule => .createRule rule
  | extensions, extension => .createExtension extension
  | transformFunctions, function => .createFunction function

def replacement (id : String) : (which : Collection) → (resource which).Entity → Edit
  | extractSources, source => .updateSource id source
  | extractRules, rule => .updateRule id rule
  | extensions, extension => .updateExtension id extension
  | transformFunctions, function => .updateFunction id function

/-- Only the removal of a source depends on the query. -/
def removal (target : Target) (id : String) : Collection → Except Malformation Edit
  | extractSources => (readDeleteMode target).map (Edit.deleteSource id)
  | extractRules => .ok (.deleteRule id)
  | extensions => .ok (.deleteExtension id)
  | transformFunctions => .ok (.deleteFunction id)

def get (id : String) : Collection → Reading
  | extractSources => .getSource id
  | extractRules => .getRule id
  | extensions => .getExtension id
  | transformFunctions => .getFunction id

def list : Collection → Reading
  | extractSources => .listSources
  | extractRules => .listRules
  | extensions => .listExtensions
  | transformFunctions => .listFunctions

end Collection

/-! ## Meanings -/

/-- What a request stands for. -/
inductive Meaning
  | unrouted
  | unsupported
  | greeting
  | malformed (cause : Malformation)
  | command (context : Context) (command : Command)

/-- The command that a request asks for on a route, unless it cannot be understood. -/
def understood (settings : ServerSettings) (request : Request) :
    Route → Method → Option (Except Malformation (Context × Command))
  | .pipeline key, .put => some do
      return (⟨settings.registry, ← readKey key⟩, .createPipeline)
  | .pipeline key, .get => some do
      return (⟨settings.registry, ← readKey key⟩, .read .getPipeline)
  | .pipeline key, .delete => some do
      return (⟨settings.registry, ← readKey key⟩, .deletePipeline)
  | .collection key which, .post => some do
      let context : Context := ⟨settings.registry, ← readKey key⟩
      return (context, .edit (which.creation (← readBody (resource which).decode settings request)))
  | .collection key which, .get => some do
      return (⟨settings.registry, ← readKey key⟩, .read which.list)
  | .entity key which id, .get => some do
      let context : Context := ⟨settings.registry, ← readKey key⟩
      return (context, .read (which.get (← readParameter "id" id)))
  | .entity key which id, .put => some do
      let context : Context := ⟨settings.registry, ← readKey key⟩
      let id ← readParameter "id" id
      let entity ← readBody (resource which).decode settings request
      return (context, .edit (which.replacement id entity))
  | .entity key which id, .delete => some do
      let context : Context := ⟨settings.registry, ← readKey key⟩
      let id ← readParameter "id" id
      return (context, .edit (← which.removal request.target id))
  | _, _ => none

def Meaning.ofUnderstood : Option (Except Malformation (Context × Command)) → Meaning
  | none => unsupported
  | some (.error cause) => malformed cause
  | some (.ok (context, asked)) => command context asked

/-- A request for the head alone means the same as one for all of it. -/
def Request.asked (request : Request) : Method :=
  if request.method = .head then .get else request.method

def Request.meaning (settings : ServerSettings) (request : Request) : Meaning :=
  match Route.ofPath? request.target.path with
  | none => .unrouted
  | some (.greeting _) => if request.asked = .get then .greeting else .unsupported
  | some route => .ofUnderstood (understood settings request route request.asked)

/-! ## Answers -/

def replyContent : Reply → Content
  | .outcome outcome => .json outcome.encode
  | .source detail => .json detail.encode
  | .sources sources => .json (.list (sources.map ExtractSource.encode))
  | .rule rule => .json rule.encode
  | .rules rules => .json (.list (rules.map ExtractRule.encode))
  | .extension extension => .json extension.encode
  | .extensions extensions => .json (.list (extensions.map Extension.encode))
  | .function function => .json function.encode
  | .functions functions => .json (.list (functions.map TransformFunction.encode))
  | .pipeline pipeline => .json pipeline.encode
  | .deleted => .empty

/-- The status of a command that succeeds. -/
def successStatus : Command → Status
  | .createPipeline => ⟨201⟩
  | .deletePipeline => ⟨204⟩
  | .read _ => ⟨200⟩
  | .edit edit => if edit.isCreation then ⟨201⟩ else ⟨200⟩

def respondTo (command : Command) : Except RegistryError Reply → Response
  | .ok reply => ⟨successStatus command, replyContent reply⟩
  | .error error => (Refusal.registry error).response

def Meaning.answer : Meaning → Program Response
  | unrouted => return ⟨⟨404⟩, .empty⟩
  | unsupported => return ⟨⟨405⟩, .empty⟩
  | greeting => return ⟨⟨200⟩, .text Http.greeting⟩
  | malformed cause => return (Refusal.malformed cause).response
  | command context asked => do return respondTo asked (← (asked.operation context).run)

/-- The content of an answer is left out if only its head was asked for. -/
def Request.trim (request : Request) (response : Response) : Response :=
  if request.method = .head then response.withoutContent else response

/-! ## Requests are answered by what they mean -/

/-- The handler of a request that stands for a command. -/
def Handler.ofUnderstood (understood : Except Malformation (Context × Command)) :
    Handler Response := do
  let (context, asked) ← Handler.ofExcept understood
  let reply ← Handler.ofOperation (asked.operation context)
  return ⟨successStatus asked, replyContent reply⟩

theorem Handler.ofOperation_map
    {α β : Type} (change : α → β) (operation : Operation α) :
    Handler.ofOperation (change <$> operation) = change <$> Handler.ofOperation operation := by
  apply ExceptT.ext
  rw [ExceptT.run_map]
  unfold Handler.ofOperation
  simp only [ExceptT.run_mk, ExceptT.run_map, map_bind, bind_map_left, map_pure]
  congr 1
  funext result
  cases result with
  | error error => rfl
  | ok value => rfl

theorem answerJson_eq
    {α : Type} (status : Status) {encode : α → Json} (reply : α → Reply)
    (operation : Operation α)
    (content : ∀ value, replyContent (reply value) = .json (encode value)) :
    answerJson status encode operation = (do
      let reply ← Handler.ofOperation (reply <$> operation)
      return ⟨status, replyContent reply⟩) := by
  unfold answerJson
  rw [Handler.ofOperation_map, bind_map_left]
  simp only [content]

theorem answerJson_encoded
    {α : Type} (status : Status) {encode : α → Json} (reply : α → Reply)
    (operation : Operation α)
    (content : ∀ value, replyContent (reply value) = .json (encode value)) :
    answerJson status (fun json => json) (encoded encode operation) = (do
      let reply ← Handler.ofOperation (reply <$> operation)
      return ⟨status, replyContent reply⟩) := by
  have mapped : encoded encode operation = encode <$> operation := bind_pure_comp encode operation
  rw [← answerJson_eq status reply operation content, mapped]
  unfold answerJson
  rw [Handler.ofOperation_map, bind_map_left]

theorem answerJson_encodedList
    {α : Type} (status : Status) {encode : α → Json} (reply : List α → Reply)
    (operation : Operation (List α))
    (content : ∀ values, replyContent (reply values) = .json (.list (values.map encode))) :
    answerJson status Json.list (encodedList encode operation) = (do
      let reply ← Handler.ofOperation (reply <$> operation)
      return ⟨status, replyContent reply⟩) := by
  have mapped : encodedList encode operation = List.map encode <$> operation :=
    bind_pure_comp (List.map encode) operation
  rw [← answerJson_eq status reply operation content, mapped]
  unfold answerJson
  rw [Handler.ofOperation_map, bind_map_left]

theorem servePipeline_eq
    (settings : ServerSettings) (request : Request) (key : EncodedKey) (method : Method) :
    servePipeline settings key method =
      (understood settings request (.pipeline key) method).map Handler.ofUnderstood := by
  unfold servePipeline readContext understood
  cases method with
  | put =>
      simp only [Option.map_some]
      cases readKey key with
      | error cause => rfl
      | ok key => exact congrArg some (answerJson_eq ⟨201⟩ .pipeline _ fun _ => rfl)
  | get =>
      simp only [Option.map_some]
      cases readKey key with
      | error cause => rfl
      | ok key => exact congrArg some (answerJson_eq ⟨200⟩ .pipeline _ fun _ => rfl)
  | delete =>
      simp only [Option.map_some]
      cases readKey key with
      | error cause => rfl
      | ok key =>
          apply congrArg some
          change (Handler.ofOperation (Registry.deletePipeline _) >>= _) =
            (Handler.ofOperation ((fun _ => Reply.deleted) <$> _) >>= _)
          rw [Handler.ofOperation_map, bind_map_left]
          rfl
  | head | post | named _ => rfl

theorem serveCollection_eq
    (settings : ServerSettings) (request : Request) (key : EncodedKey) (which : Collection)
    (method : Method) :
    serveCollection settings request key (resource which) method =
      (understood settings request (.collection key which) method).map Handler.ofUnderstood := by
  unfold serveCollection readContext understood
  cases method with
  | post =>
      simp only [Option.map_some]
      cases readKey key with
      | error cause => rfl
      | ok key =>
          cases readBody (resource which).decode settings request with
          | error cause => rfl
          | ok entity =>
              apply congrArg some
              cases which with
              | extractSources | extractRules | extensions | transformFunctions =>
                  exact answerJson_eq ⟨201⟩ .outcome _ fun _ => rfl
  | get =>
      simp only [Option.map_some]
      cases readKey key with
      | error cause => rfl
      | ok key =>
          apply congrArg some
          cases which with
          | extractSources => exact answerJson_encodedList ⟨200⟩ .sources _ fun _ => rfl
          | extractRules => exact answerJson_encodedList ⟨200⟩ .rules _ fun _ => rfl
          | extensions => exact answerJson_encodedList ⟨200⟩ .extensions _ fun _ => rfl
          | transformFunctions => exact answerJson_encodedList ⟨200⟩ .functions _ fun _ => rfl
  | head | put | delete | named _ => rfl

theorem serveEntity_eq
    (settings : ServerSettings) (request : Request) (key : EncodedKey) (which : Collection)
    (id : List Char) (method : Method) :
    serveEntity settings request key id (resource which) method =
      (understood settings request (.entity key which id) method).map Handler.ofUnderstood := by
  unfold serveEntity readEntityPath readContext understood
  cases method with
  | get =>
      simp only [Option.map_some]
      cases readKey key with
      | error cause => rfl
      | ok key =>
          cases readParameter "id" id with
          | error cause => rfl
          | ok id =>
              apply congrArg some
              cases which with
              | extractSources => exact answerJson_encoded ⟨200⟩ .source _ fun _ => rfl
              | extractRules => exact answerJson_encoded ⟨200⟩ .rule _ fun _ => rfl
              | extensions => exact answerJson_encoded ⟨200⟩ .extension _ fun _ => rfl
              | transformFunctions => exact answerJson_encoded ⟨200⟩ .function _ fun _ => rfl
  | put =>
      simp only [Option.map_some]
      cases readKey key with
      | error cause => rfl
      | ok key =>
          cases readParameter "id" id with
          | error cause => rfl
          | ok id =>
              cases readBody (resource which).decode settings request with
              | error cause => rfl
              | ok entity =>
                  apply congrArg some
                  cases which with
                  | extractSources | extractRules | extensions | transformFunctions =>
                      exact answerJson_eq ⟨200⟩ .outcome _ fun _ => rfl
  | delete =>
      simp only [Option.map_some]
      cases readKey key with
      | error cause => rfl
      | ok key =>
          cases readParameter "id" id with
          | error cause => rfl
          | ok id =>
              cases which with
              | extractSources =>
                  cases read : readDeleteMode request.target with
                  | error cause =>
                      simp only [resource, Collection.removal, read]
                      rfl
                  | ok mode =>
                      simp only [resource, Collection.removal, read]
                      exact congrArg some (answerJson_eq ⟨200⟩ .outcome _ fun _ => rfl)
              | extractRules | extensions | transformFunctions =>
                  exact congrArg some (answerJson_eq ⟨200⟩ .outcome _ fun _ => rfl)
  | head | post | named _ => rfl

theorem handler?_eq
    (settings : ServerSettings) (request : Request) (route : Route) (method : Method)
    (serves : ∀ path, route ≠ .greeting path) :
    handler? settings request route method =
      (understood settings request route method).map Handler.ofUnderstood := by
  cases route with
  | greeting path => exact absurd rfl (serves path)
  | pipeline key => exact servePipeline_eq settings request key method
  | collection key which => exact serveCollection_eq settings request key which method
  | entity key which id => exact serveEntity_eq settings request key which id method

theorem Handler.respond_ofUnderstood
    (understood : Except Malformation (Context × Command)) :
    (Handler.ofUnderstood understood).respond =
      (Meaning.ofUnderstood (some understood)).answer := by
  cases understood with
  | error cause => rfl
  | ok asked =>
      obtain ⟨context, asked⟩ := asked
      change (Handler.respond (Handler.ofOperation (asked.operation context) >>= fun reply =>
          pure ⟨successStatus asked, replyContent reply⟩)) =
        ((asked.operation context).run >>= fun result => pure (respondTo asked result))
      unfold Handler.respond Handler.ofOperation
      rw [ExceptT.run_bind, ExceptT.run_mk, bind_assoc, bind_assoc]
      congr 1
      funext result
      cases result with
      | error error => rfl
      | ok reply => rfl

theorem Request.trim_of_empty (request : Request) (status : Status) :
    request.trim ⟨status, .empty⟩ = ⟨status, .empty⟩ := by
  unfold trim
  split
  · rfl
  · rfl

theorem answerOn_eq (settings : ServerSettings) (request : Request) (route : Route) :
    answerOn settings request route =
      request.trim <$> ((handler? settings request route request.asked).map Handler.respond).getD
        Meaning.unsupported.answer := by
  cases handled : handler? settings request route request.asked with
  | none =>
      unfold Request.asked at handled
      simp only [answerOn, handled]
      change pure _ = pure _
      rw [request.trim_of_empty]
  | some handler =>
      unfold Request.asked at handled
      simp only [answerOn, handled]
      rfl

/-- Every request is answered by what it means. -/
theorem answer_eq (settings : ServerSettings) (request : Request) :
    answer settings request = request.trim <$> (request.meaning settings).answer := by
  unfold answer Request.meaning
  cases found : Route.ofPath? request.target.path with
  | none =>
      change pure _ = pure _
      rw [request.trim_of_empty]
  | some route =>
      simp only [answerOn_eq]
      cases route with
      | greeting path =>
          by_cases asked : request.asked = .get
          · simp only [handler?, asked, ↓reduceIte]
            rfl
          · simp only [handler?, asked, ↓reduceIte]
            rfl
      | pipeline _ | collection _ _ | entity _ _ _ =>
          rw [handler?_eq settings request _ _ (by simp)]
          simp only
          cases understood settings request _ request.asked with
          | none => rfl
          | some understood =>
              simp only [Option.map_some, Option.getD_some, Handler.respond_ofUnderstood]

end PipelineRegistry.Http
