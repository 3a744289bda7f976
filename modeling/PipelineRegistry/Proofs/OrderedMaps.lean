import PipelineRegistry.Proofs.Entries
import PipelineRegistry.Proofs.Serving

/-!
# Operations on ordered maps

A stored pipeline represents four maps: its operations list them, look ids up in them, and do not
find what is not there. An edit that succeeds leaves a pipeline that represents the maps as its task
makes them, and one that fails leaves everything as it is.
-/

namespace PipelineRegistry

open Registry

/-! ## Readings -/

section Readings

variable {surroundings : Surroundings} {store : Store} {context : Context}
  {document : PipelineDocument} {counter : Int}

theorem serve_shown_inspection
    {α : Type} {reading : Reading} {look : PipelineDocument → Except RegistryError α}
    {reply : α → Reply}
    (known : store.find? context.key = some ⟨document, counter⟩)
    (served : reading.operation context = reply <$> inspect context look)
    (spoken : reading.Shows context document (.ofCounter counter) ((look document).map reply)) :
    ∃ result,
      (reading.operation context).serve surroundings store = (result, store) ∧
        reading.Shows context document (.ofCounter counter) result := by
  refine ⟨(look document).map reply, ?_, spoken⟩
  rw [served, Operation.serve_map, serve_inspect surroundings known]

/-- A reading shows the stored document and leaves the store as it is. -/
theorem serve_reading
    (surroundings : Surroundings)
    (known : store.find? context.key = some ⟨document, counter⟩) (reading : Reading) :
    ∃ result,
      (reading.operation context).serve surroundings store = (result, store) ∧
        reading.Shows context document (.ofCounter counter) result := by
  have shownFound {β : Type} (kind : EntityKind) (id : String) (found? : Option β)
      {γ : Type} (entity : β → γ) (reply : γ → Reply)
      (plain : ∀ shown, (reply shown).stored = reply shown) :
      (((found kind id found?).map entity).map reply).map Reply.stored =
        (found kind id found?).map fun record => reply (entity record) := by
    cases found? with
    | none => rfl
    | some record => exact congrArg Except.ok (plain (entity record))
  cases reading with
  | getSource id =>
      obtain ⟨workerActive, metrics, served⟩ := serve_getSource surroundings known id
      have served : ((Reading.getSource id).operation context).serve surroundings store =
          (((describeSource id document).map fun detail =>
            { detail with workerActive := workerActive, metrics := metrics }).map .source, store) := by
        change (Reply.source <$> Registry.getSource context id).serve surroundings store = _
        rw [Operation.serve_map, served]
      refine ⟨_, served, ?_⟩
      unfold Reading.Shows
      change _ = (describeSource id document).map Reply.source
      cases described : describeSource id document with
      | error error => rfl
      | ok detail =>
          have stored := Reading.stored_describeSource described workerActive metrics
          exact congrArg Except.ok stored
  | listSources => exact serve_shown_inspection known rfl rfl
  | getRule id => exact serve_shown_inspection known rfl (shownFound _ _ _ _ _ fun _ => rfl)
  | listRules => exact serve_shown_inspection known rfl rfl
  | getExtension id => exact serve_shown_inspection known rfl (shownFound _ _ _ _ _ fun _ => rfl)
  | listExtensions => exact serve_shown_inspection known rfl rfl
  | getFunction id => exact serve_shown_inspection known rfl (shownFound _ _ _ _ _ fun _ => rfl)
  | listFunctions => exact serve_shown_inspection known rfl rfl
  | getPipeline =>
      let shown := document.pipeline context.key (Version.ofCounter counter).token
      refine ⟨.ok (.pipeline shown), ?_, rfl⟩
      change (Reply.pipeline <$> Registry.getPipeline context).serve surroundings store = _
      unfold Registry.getPipeline
      rw [Operation.serve_map, Operation.serve_bind_of_ok (serve_load known)]
      rfl

end Readings

/-! ## Maps that a pipeline represents -/

/-- The operations on a pipeline show four maps with unique ids: they list all entries in order,
they show each entry under its id, and what is not in a map is not found, be it read, updated with
fields that pass their checks, or deleted. -/
structure Represents (context : Context) (store : Store) (maps : Maps) : Prop where
  unique : maps.Unique
  listed : ∀ surroundings collection, ∃ reply,
    (collection.list.operation context).serve surroundings store = (.ok reply, store) ∧
      reply.entries? = some (maps collection)
  shown : ∀ surroundings collection, ∀ entry ∈ maps collection, ∃ reply,
    ((collection.get entry.id).operation context).serve surroundings store = (.ok reply, store) ∧
      reply.entry? = some entry
  unseen : ∀ surroundings collection id, (∀ entry ∈ maps collection, entry.id ≠ id) →
    ((collection.get id).operation context).serve surroundings store =
      (.error (.notFound collection.kind id), store)
  unchanged : ∀ surroundings (edit : Edit) id,
    edit.target? = some id → (∀ entry ∈ maps edit.collection, entry.id ≠ id) →
    edit.check = .ok () →
    (edit.operation context).serve surroundings store =
      (.error (.notFound edit.collection.kind id), store)

section Maps

variable {surroundings : Surroundings} {store : Store} {context : Context}
  {document : PipelineDocument} {counter : Int} {edit : Edit}

theorem find?_entry
    {α : Type} {list : List α} {entry : α → Entry} {field : α → String}
    (named : ∀ element, (entry element).id = field element)
    (unique : ((list.map entry).map Entry.id).Nodup) {stored : Entry}
    (member : stored ∈ list.map entry) :
    ∃ element, list.find? (field · == stored.id) = some element ∧ entry element = stored := by
  induction list with
  | nil => cases member
  | cons first rest inductionHypothesis =>
      rw [List.map_cons, List.map_cons, List.nodup_cons] at unique
      rw [List.map_cons] at member
      rcases List.mem_cons.mp member with rfl | inRest
      · refine ⟨first, ?_, rfl⟩
        rw [List.find?_cons_of_pos (by simp [named])]
      · have differs : field first ≠ stored.id := by
          intro same
          apply unique.1
          rw [named, same]
          exact List.mem_map_of_mem inRest
        rw [List.find?_cons_of_neg (by simpa using differs)]
        exact inductionHypothesis unique.2 inRest

theorem entries?_of_list
    {collection : Collection} {result : Except RegistryError Reply} {version : Version}
    (shows : collection.list.Shows context document version result) :
    ∃ reply, result = .ok reply ∧ reply.entries? = some (document.entries collection) := by
  have viewed : ∃ reply, collection.list.view context document version = .ok reply ∧
      reply.entries? = some (document.entries collection) := by
    cases collection
    all_goals
      refine ⟨_, rfl, ?_⟩
      simp [Reply.entries?, PipelineDocument.entries]
  obtain ⟨reply, view, listed⟩ := viewed
  unfold Reading.Shows at shows
  rw [view] at shows
  cases result with
  | error error => cases shows
  | ok given =>
      cases shows
      exact ⟨given, rfl, by rw [← Reply.entries?_stored, listed]⟩

theorem entry?_of_get
    {collection : Collection} {entry : Entry} {result : Except RegistryError Reply}
    {version : Version} (unique : document.entries.Unique)
    (member : entry ∈ document.entries collection)
    (shows : (collection.get entry.id).Shows context document version result) :
    ∃ reply, result = .ok reply ∧ reply.entry? = some entry := by
  have viewed : ∃ reply, (collection.get entry.id).view context document version = .ok reply ∧
      reply.entry? = some entry := by
    cases collection with
    | sources =>
        obtain ⟨record, found?, rfl⟩ := find?_entry (fun _ => rfl) (unique .sources) member
        have known : document.findSource? (Entry.source record.entity).id = some record := found?
        refine ⟨_, by simp only [Collection.get, Reading.view, describeSource, known, found]; rfl, rfl⟩
    | rules =>
        obtain ⟨record, found?, rfl⟩ := find?_entry (fun _ => rfl) (unique .rules) member
        have known : document.extractRules.find? (·.id == (Entry.rule record.entity).id) =
            some record := found?
        exact ⟨_, by simp only [Collection.get, Reading.view, known, found]; rfl, rfl⟩
    | extensions =>
        obtain ⟨record, found?, rfl⟩ := find?_entry (fun _ => rfl) (unique .extensions) member
        have known : document.extensions.find? (·.id == (Entry.extension record.entity).id) =
            some record := found?
        exact ⟨_, by simp only [Collection.get, Reading.view, known, found]; rfl, rfl⟩
    | functions =>
        obtain ⟨record, found?, rfl⟩ := find?_entry (fun _ => rfl) (unique .functions) member
        have known : document.transformFunctions.find? (·.id == (Entry.function record.entity).id) =
            some record := found?
        exact ⟨_, by simp only [Collection.get, Reading.view, known, found]; rfl, rfl⟩
  obtain ⟨reply, view, shown⟩ := viewed
  unfold Reading.Shows at shows
  rw [view] at shows
  cases result with
  | error error => cases shows
  | ok given =>
      cases shows
      exact ⟨given, rfl, by rw [← Reply.entry?_stored, shown]⟩

theorem notFound_of_get
    {collection : Collection} {id : String} {result : Except RegistryError Reply}
    {version : Version} (absent : ∀ entry ∈ document.entries collection, entry.id ≠ id)
    (shows : (collection.get id).Shows context document version result) :
    result = .error (.notFound collection.kind id) := by
  have viewed : (collection.get id).view context document version =
      .error (.notFound collection.kind id) := by
    cases collection with
    | sources =>
        have none : document.findSource? id = none :=
          Edit.find?_eq_none_of_absent (fun _ => rfl) absent
        simp only [Collection.get, Reading.view, describeSource, none, found]
        rfl
    | rules =>
        have none : document.extractRules.find? (·.id == id) = none :=
          Edit.find?_eq_none_of_absent (fun _ => rfl) absent
        simp only [Collection.get, Reading.view, none, found]
        rfl
    | extensions =>
        have none : document.extensions.find? (·.id == id) = none :=
          Edit.find?_eq_none_of_absent (fun _ => rfl) absent
        simp only [Collection.get, Reading.view, none, found]
        rfl
    | functions =>
        have none : document.transformFunctions.find? (·.id == id) = none :=
          Edit.find?_eq_none_of_absent (fun _ => rfl) absent
        simp only [Collection.get, Reading.view, none, found]
        rfl
  unfold Reading.Shows at shows
  rw [viewed] at shows
  cases result with
  | error error =>
      cases shows
      rfl
  | ok given => cases shows

theorem represents_of_unique
    (known : store.find? context.key = some ⟨document, counter⟩)
    (unique : document.entries.Unique) :
    Represents context store document.entries where
  unique := unique
  listed := by
    intro surroundings collection
    obtain ⟨result, served, shows⟩ := serve_reading surroundings known collection.list
    obtain ⟨reply, rfl, listed⟩ := entries?_of_list shows
    exact ⟨reply, served, listed⟩
  shown := by
    intro surroundings collection entry member
    obtain ⟨result, served, shows⟩ := serve_reading surroundings known (collection.get entry.id)
    obtain ⟨reply, rfl, shown⟩ := entry?_of_get unique member shows
    exact ⟨reply, served, shown⟩
  unseen := by
    intro surroundings collection id absent
    obtain ⟨result, served, shows⟩ := serve_reading surroundings known (collection.get id)
    rw [served, notFound_of_get absent shows]
  unchanged := by
    intro surroundings edit id targeted absent checked
    exact Edit.serve_of_rejected known checked (Edit.change_of_absent targeted absent)

/-- Edits refine tasks on ordered maps. They succeed if their fields pass the checks and the edit
fits the document; then they answer with the id that they are about, and the document that is stored
afterwards, under the next version, represents what the task makes of the maps. Otherwise nothing
changes. -/
theorem edits_refine_ordered_maps
    (known : store.find? context.key = some ⟨document, counter⟩)
    (unique : document.entries.Unique) (fresh : surroundings.newId ∉ document.ids)
    (decoded : edit.Decoded) :
    Represents context store document.entries ∧
    ((∃ outcome after, ∃ written : PipelineDocument,
      (edit.operation context).serve surroundings store = (.ok outcome, after) ∧
      edit.check = .ok () ∧ edit.Fits context document ∧
      outcome.id = edit.target?.getD surroundings.newId ∧
      after.find? context.key = some ⟨written, counter + 1⟩ ∧
      written.entries =
        edit.task.apply surroundings.newId edit.collection document.entries ∧
      (∀ id cascades, edit.task = .delete id cascades →
        ∀ entry ∈ written.entries edit.collection, entry.id ≠ id) ∧
      Represents context after written.entries ∧
      ∀ other, other ≠ context.key → after.find? other = store.find? other) ∨
    ∃ error,
      (edit.operation context).serve surroundings store = (.error error, store) ∧
      ¬ (edit.check = .ok () ∧ edit.Fits context document)) := by
  refine ⟨represents_of_unique known unique, ?_⟩
  rcases Edit.serve_cases known with
    ⟨error, failed, served⟩ | ⟨checked, error, rejected, served⟩ |
    ⟨checked, written, receipt, changed, served⟩
  · refine Or.inr ⟨error, served, ?_⟩
    rintro ⟨checked, -⟩
    rw [checked] at failed
    cases failed
  · refine Or.inr ⟨error, served, ?_⟩
    rintro ⟨-, fits⟩
    exact Edit.not_fits_of_change_error rejected fits
  · have refined : (edit.outcome surroundings.newId document).entries =
        edit.task.apply surroundings.newId edit.collection document.entries :=
      Edit.entries_outcome unique decoded
    rw [← Edit.eq_outcome_of_change changed] at refined
    have stored (other : PipelineKey) := Store.find?_after_update written other known rfl
    have storedHere := stored context.key
    rw [if_pos rfl] at storedHere
    have uniqueAfter := Edit.unique_entries unique (fun _ => fresh) changed
    have gone (id : String) (cascades : Bool) (deletes : edit.task = .delete id cascades) :
        ∀ entry ∈ written.entries edit.collection, entry.id ≠ id := by
      rw [refined, deletes]
      exact Task.absent_of_delete
    refine Or.inl ⟨_, _, written, served, checked, Edit.fits_of_change changed,
      Edit.id_of_change changed, storedHere, refined, gone,
      represents_of_unique storedHere uniqueAfter, ?_⟩
    intro other differs
    exact (stored other).trans (if_neg differs)

end Maps

/-! ## Two edits of one pipeline

A client adds an extension under an id of its own, which is ignored. Another one deletes a source with
all that is bound to it. -/

namespace Bindings

def context : Context :=
  ⟨{}, ⟨"default", "sales"⟩⟩

def surroundings : Surroundings :=
  ⟨"new", fun _ => .error (.interrupted .cancelled)⟩

def document : PipelineDocument where
  extractSources := [{ id := "s" }, { id := "t" }]
  extractRules := [{ id := "p", extractSourceId := "s" }, { id := "q", extractSourceId := "t" }]
  extensions := [{ id := "e", extractSourceId := "s" }]

def store : Store :=
  ⟨[(context.key, ⟨document, 4⟩)]⟩

def json : Json :=
  .record [("id", .text "mine"), ("extractSourceId", .text "t"), ("name", .text "notify"),
    ("path", .text "/notify")]

def payload : Extension :=
  ⟨"mine", "t", "notify", "/notify"⟩

def creation : Edit :=
  .createExtension payload

def deletion : Edit :=
  .deleteSource "s" .cascade

theorem find?_store : store.find? context.key = some ⟨document, 4⟩ := rfl

theorem unique : document.entries.Unique := by
  intro collection
  cases collection
  all_goals decide

theorem fresh : surroundings.newId ∉ document.ids := by
  decide

theorem decoded : creation.Decoded :=
  ⟨json, rfl⟩

theorem creation_accepted : creation.check = .ok () ∧ creation.Fits context document :=
  ⟨rfl, trivial⟩

theorem deletion_accepted : deletion.check = .ok () ∧ deletion.Fits context document :=
  ⟨rfl, _, rfl⟩

end Bindings

theorem edits_refine_ordered_maps_bindings :
    (Bindings.store.find? Bindings.context.key = some ⟨Bindings.document, 4⟩ ∧
      Bindings.document.entries.Unique ∧ Bindings.surroundings.newId ∉ Bindings.document.ids ∧
      Bindings.creation.Decoded ∧ Bindings.deletion.Decoded) ∧
    (∃ outcome after, ∃ written : PipelineDocument,
      (Bindings.creation.operation Bindings.context).serve Bindings.surroundings Bindings.store =
        (.ok outcome, after) ∧
      outcome.id = "new" ∧
      written.entries .extensions =
        [.extension ⟨"e", "s", "", ""⟩, .extension ⟨"new", "t", "notify", "/notify"⟩] ∧
      Represents Bindings.context after written.entries) ∧
    ∃ outcome after, ∃ written : PipelineDocument,
      (Bindings.deletion.operation Bindings.context).serve Bindings.surroundings Bindings.store =
        (.ok outcome, after) ∧
      outcome.id = "s" ∧
      written.entries .sources = [.source { id := "t" }] ∧
      written.entries .rules = [.rule { id := "q", extractSourceId := "t" }] ∧
      written.entries .extensions = [] ∧
      Represents Bindings.context after written.entries := by
  have created := (edits_refine_ordered_maps Bindings.find?_store Bindings.unique Bindings.fresh
    Bindings.decoded).2
  have deletable : Bindings.deletion.Decoded := trivial
  have deleted := (edits_refine_ordered_maps Bindings.find?_store Bindings.unique Bindings.fresh
    deletable).2
  refine ⟨⟨Bindings.find?_store, Bindings.unique, Bindings.fresh, Bindings.decoded, deletable⟩,
    ?creation, ?deletion⟩
  case creation =>
    rcases created with
      ⟨outcome, after, written, served, -, -, named, -, refined, -, represents, -⟩ |
      ⟨error, -, rejected⟩
    · refine ⟨outcome, after, written, served, named, ?_, represents⟩
      rw [refined]
      rfl
    · exact absurd Bindings.creation_accepted rejected
  case deletion =>
    rcases deleted with
      ⟨outcome, after, written, served, -, -, named, -, refined, -, represents, -⟩ |
      ⟨error, -, rejected⟩
    · refine ⟨outcome, after, written, served, named, ?_, ?_, ?_, represents⟩
      · rw [refined]
        decide
      · rw [refined]
        decide
      · rw [refined]
        decide
    · exact absurd Bindings.deletion_accepted rejected

end PipelineRegistry
