import PipelineRegistry.Proofs.OrderedMaps

/-!
# Deletions

Ids are unique in a document that only this registry has written. Others may have written a document
in which several records of one kind have the same id. A deletion of a rule takes all rules with the
id, and any other deletion takes the first record with it, so that the id stays as long as there are
others.
-/

namespace PipelineRegistry

open Registry

/-! ## Ids of a collection -/

/-- How many entries of a collection have an id. -/
def Maps.carriers (maps : Maps) (collection : Collection) (id : String) : Nat :=
  ((maps collection).map Entry.id).count id

section Carriers

variable {document : PipelineDocument} {context : Context} {collection : Collection} {edit : Edit}
  {id newId : String} {cascades : Bool}

theorem Maps.carriers_pos_iff {maps : Maps} :
    0 < maps.carriers collection id ↔ ∃ entry ∈ maps collection, entry.id = id := by
  unfold carriers
  rw [List.count_pos_iff, List.mem_map]

theorem Maps.carriers_eq_zero_iff {maps : Maps} :
    maps.carriers collection id = 0 ↔ ∀ entry ∈ maps collection, entry.id ≠ id := by
  have carried : 0 < maps.carriers collection id ↔ ∃ entry ∈ maps collection, entry.id = id :=
    carriers_pos_iff
  constructor
  · intro none entry member same
    have some := carried.mpr ⟨entry, member, same⟩
    omega
  · intro absent
    by_contra some
    obtain ⟨entry, member, same⟩ := carried.mp (Nat.pos_of_ne_zero some)
    exact absent entry member same

theorem count_map_eraseP
    {α : Type} (list : List α) (field : α → String) (id : String) :
    ((list.eraseP (field · == id)).map field).count id = (list.map field).count id - 1 := by
  have erased : (list.eraseP (field · == id)).map field = (list.map field).erase id := by
    rw [List.erase_eq_eraseP', List.eraseP_map]
    rfl
  rw [erased, List.count_erase_self]

theorem count_map_filter
    {α : Type} (list : List α) (field : α → String) (id : String) :
    ((list.filter (field · != id)).map field).count id = 0 := by
  rw [List.count_eq_zero]
  intro member
  obtain ⟨element, kept, same⟩ := List.mem_map.mp member
  have differs := (List.mem_filter.mp kept).2
  simp [same] at differs

/-- How many entries with an id a deletion leaves. -/
theorem Edit.carriers_outcome (deletes : edit.task = .delete id cascades) :
    (edit.outcome newId document).entries.carriers edit.collection id =
      if edit.collection = .rules then 0
      else document.entries.carriers edit.collection id - 1 := by
  unfold Maps.carriers
  cases edit with
  | createSource _ | createRule _ | createExtension _ | createFunction _ => cases deletes
  | updateSource _ _ | updateRule _ _ | updateExtension _ _ | updateFunction _ _ => cases deletes
  | deleteSource target mode =>
      cases deletes
      have fewer := count_map_eraseP document.extractSources (·.id) id
      cases mode with
      | orphan =>
          simp only [collection, PipelineDocument.ids_sources, reduceCtorEq, ↓reduceIte]
          exact fewer
      | cascade =>
          simp only [collection, PipelineDocument.ids_sources, reduceCtorEq, ↓reduceIte]
          exact fewer
  | deleteRule target =>
      cases deletes
      simp only [collection, PipelineDocument.ids_rules, ↓reduceIte]
      exact count_map_filter document.extractRules (·.id) id
  | deleteExtension target =>
      cases deletes
      simp only [collection, PipelineDocument.ids_extensions, reduceCtorEq, ↓reduceIte]
      exact count_map_eraseP document.extensions (·.id) id
  | deleteFunction target =>
      cases deletes
      simp only [collection, PipelineDocument.ids_functions, reduceCtorEq, ↓reduceIte]
      exact count_map_eraseP document.transformFunctions (·.id) id

/-! ## Reading and deleting one id -/

theorem exists_find?_of_carried
    {α : Type} {list : List α} {entry : α → Entry} {field : α → String}
    (named : ∀ element, (entry element).id = field element)
    (carried : ∃ stored ∈ list.map entry, stored.id = id) :
    ∃ element, list.find? (field · == id) = some element ∧ field element = id := by
  obtain ⟨_, member, same⟩ := carried
  obtain ⟨element, inList, rfl⟩ := List.mem_map.mp member
  rw [named] at same
  have found : (list.find? (field · == id)).isSome :=
    List.find?_isSome.mpr ⟨element, inList, by simpa using same⟩
  obtain ⟨first, first?⟩ := Option.isSome_iff_exists.mp found
  exact ⟨first, first?, by simpa using List.find?_some first?⟩

theorem exists_reply_of_carried
    {α : Type} {list : List α} {entry : α → Entry} {field : α → String} {kind : EntityKind}
    {reply : α → Reply} (named : ∀ element, (entry element).id = field element)
    (replies : ∀ element, Reply.entry? (reply element) = some (entry element))
    (carried : ∃ stored ∈ list.map entry, stored.id = id) :
    ∃ given shown, (found kind id (list.find? (field · == id))).map reply = .ok given ∧
      given.entry? = some shown ∧ shown.id = id := by
  obtain ⟨element, known, same⟩ := exists_find?_of_carried named carried
  refine ⟨reply element, entry element, ?_, replies element, (named element).trans same⟩
  rw [known]
  rfl

/-- The first entry with an id is shown under it. -/
theorem exists_entry?_of_get
    {result : Except RegistryError Reply} {version : Version}
    (carried : ∃ entry ∈ document.entries collection, entry.id = id)
    (shows : (collection.get id).Shows context document version result) :
    ∃ reply entry, result = .ok reply ∧ reply.entry? = some entry ∧ entry.id = id := by
  have viewed : ∃ reply entry, (collection.get id).view context document version = .ok reply ∧
      reply.entry? = some entry ∧ entry.id = id := by
    cases collection with
    | sources =>
        obtain ⟨record, known, same⟩ := exists_find?_of_carried (fun _ => rfl) carried
        have known : document.findSource? id = some record := known
        exact ⟨_, .source record.entity,
          by simp only [Collection.get, Reading.view, describeSource, known, found]; rfl, rfl, same⟩
    | rules =>
        exact exists_reply_of_carried (fun _ => rfl) (fun _ => rfl) carried
    | extensions =>
        exact exists_reply_of_carried (fun _ => rfl) (fun _ => rfl) carried
    | functions => exact exists_reply_of_carried (fun _ => rfl) (fun _ => rfl) carried
  obtain ⟨reply, entry, view, shown, same⟩ := viewed
  unfold Reading.Shows at shows
  rw [view] at shows
  cases result with
  | error error => cases shows
  | ok given =>
      cases shows
      exact ⟨given, entry, rfl, by rw [← Reply.entry?_stored, shown], same⟩

/-- A deletion fits the documents that have an entry with its id. -/
theorem Edit.fits_of_carried
    (deletes : edit.task = .delete id cascades)
    (carried : ∃ entry ∈ document.entries edit.collection, entry.id = id) :
    edit.Fits context document := by
  cases edit with
  | createSource _ | createRule _ | createExtension _ | createFunction _ => cases deletes
  | updateSource _ _ | updateRule _ _ | updateExtension _ _ | updateFunction _ _ => cases deletes
  | deleteSource target mode =>
      cases deletes
      obtain ⟨record, known, -⟩ := exists_find?_of_carried (fun _ => rfl) carried
      exact ⟨record, known⟩
  | deleteRule target =>
      cases deletes
      obtain ⟨_, member, same⟩ := carried
      obtain ⟨record, inRules, rfl⟩ := List.mem_map.mp member
      exact ⟨record, inRules, same⟩
  | deleteExtension target =>
      cases deletes
      obtain ⟨record, known, -⟩ := exists_find?_of_carried (fun _ => rfl) carried
      exact ⟨record, known⟩
  | deleteFunction target =>
      cases deletes
      obtain ⟨record, known, -⟩ := exists_find?_of_carried (fun _ => rfl) carried
      exact ⟨record, known⟩

theorem Edit.check_of_deletes (deletes : edit.task = .delete id cascades) :
    edit.check = .ok () := by
  cases edit with
  | deleteSource _ _ | deleteRule _ | deleteExtension _ | deleteFunction _ => rfl
  | _ => cases deletes

theorem Edit.target?_of_deletes (deletes : edit.task = .delete id cascades) :
    edit.target? = some id := by
  cases edit with
  | deleteSource _ _ | deleteRule _ | deleteExtension _ | deleteFunction _ =>
      cases deletes
      rfl
  | _ => cases deletes

end Carriers

/-! ## Whether an id is gone -/

/-- Clients find no entry with an id: it is neither read nor listed, and it cannot be deleted. -/
structure Gone (context : Context) (store : Store) (collection : Collection) (id : String) :
    Prop where
  read : ∀ surroundings,
    ((collection.get id).operation context).serve surroundings store =
      (.error (.notFound collection.kind id), store)
  deleted : ∀ surroundings (edit : Edit) cascades,
    edit.collection = collection → edit.task = .delete id cascades →
    (edit.operation context).serve surroundings store =
      (.error (.notFound collection.kind id), store)
  listed : ∀ surroundings, ∃ reply entries,
    (collection.list.operation context).serve surroundings store = (.ok reply, store) ∧
      reply.entries? = some entries ∧ ∀ entry ∈ entries, entry.id ≠ id

/-- Clients find an entry with an id: it is read and listed, and it can be deleted. -/
structure Remains (context : Context) (store : Store) (collection : Collection) (id : String) :
    Prop where
  read : ∀ surroundings, ∃ reply entry,
    ((collection.get id).operation context).serve surroundings store = (.ok reply, store) ∧
      reply.entry? = some entry ∧ entry.id = id
  deleted : ∀ surroundings (edit : Edit) cascades,
    edit.collection = collection → edit.task = .delete id cascades →
    ∃ outcome after,
      (edit.operation context).serve surroundings store = (.ok outcome, after)
  listed : ∀ surroundings, ∃ reply entries,
    (collection.list.operation context).serve surroundings store = (.ok reply, store) ∧
      reply.entries? = some entries ∧ ∃ entry ∈ entries, entry.id = id

section Deletions

variable {surroundings : Surroundings} {store after : Store} {context : Context}
  {document : PipelineDocument} {counter : Int} {collection : Collection} {edit : Edit}
  {id : String} {cascades : Bool} {outcome : MutationOutcome}

theorem serve_list
    (surroundings : Surroundings)
    (known : store.find? context.key = some ⟨document, counter⟩) (collection : Collection) :
    ∃ reply,
      (collection.list.operation context).serve surroundings store = (.ok reply, store) ∧
        reply.entries? = some (document.entries collection) := by
  obtain ⟨result, served, shows⟩ := serve_reading surroundings known collection.list
  obtain ⟨reply, rfl, listed⟩ := entries?_of_list shows
  exact ⟨reply, served, listed⟩

theorem gone_of_absent
    (known : store.find? context.key = some ⟨document, counter⟩)
    (absent : ∀ entry ∈ document.entries collection, entry.id ≠ id) :
    Gone context store collection id where
  read := by
    intro surroundings
    obtain ⟨result, served, shows⟩ := serve_reading surroundings known (collection.get id)
    rw [served, notFound_of_get absent shows]
  deleted := by
    rintro surroundings edit cascades rfl deletes
    exact Edit.serve_of_rejected known (Edit.check_of_deletes deletes)
      (Edit.change_of_absent (Edit.target?_of_deletes deletes) absent)
  listed := by
    intro surroundings
    obtain ⟨reply, served, listed⟩ := serve_list surroundings known collection
    exact ⟨reply, _, served, listed, absent⟩

theorem remains_of_carried
    (known : store.find? context.key = some ⟨document, counter⟩)
    (carried : ∃ entry ∈ document.entries collection, entry.id = id) :
    Remains context store collection id where
  read := by
    intro surroundings
    obtain ⟨result, served, shows⟩ := serve_reading surroundings known (collection.get id)
    obtain ⟨reply, entry, rfl, shown, same⟩ := exists_entry?_of_get carried shows
    exact ⟨reply, entry, served, shown, same⟩
  deleted := by
    rintro surroundings edit cascades rfl deletes
    have fits : edit.Fits context document := Edit.fits_of_carried deletes carried
    obtain ⟨receipt, changed⟩ := Edit.change_of_fits surroundings.newId fits
    exact ⟨_, _, Edit.serve_of_changed known (Edit.check_of_deletes deletes) changed⟩
  listed := by
    intro surroundings
    obtain ⟨reply, served, listed⟩ := serve_list surroundings known collection
    exact ⟨reply, _, served, listed, carried⟩

theorem not_gone_of_remains (remains : Remains context store collection id) :
    ¬ Gone context store collection id := by
  intro gone
  obtain ⟨reply, entry, served, -⟩ :=
    remains.read ⟨"", fun _ => .error (.interrupted .cancelled)⟩
  rw [gone.read] at served
  cases served

theorem gone_iff (known : store.find? context.key = some ⟨document, counter⟩) :
    Gone context store collection id ↔ document.entries.carriers collection id = 0 := by
  rw [Maps.carriers_eq_zero_iff]
  refine ⟨?_, gone_of_absent known⟩
  intro gone entry member same
  have remains := remains_of_carried known ⟨entry, member, same⟩
  exact not_gone_of_remains remains gone

theorem remains_iff (known : store.find? context.key = some ⟨document, counter⟩) :
    Remains context store collection id ↔ 0 < document.entries.carriers collection id := by
  refine ⟨?_, fun carried => remains_of_carried known (Maps.carriers_pos_iff.mp carried)⟩
  intro remains
  have notGone := not_gone_of_remains remains
  rw [gone_iff known] at notGone
  exact Nat.pos_of_ne_zero notGone

/-- What a deletion that succeeds leaves in the store. -/
theorem stored_of_deletion
    (known : store.find? context.key = some ⟨document, counter⟩)
    (deletes : edit.task = .delete id cascades)
    (served : (edit.operation context).serve surroundings store = (.ok outcome, after)) :
    ∃ written : PipelineDocument,
      after.find? context.key = some ⟨written, counter + 1⟩ ∧
      0 < document.entries.carriers edit.collection id ∧
      written.entries.carriers edit.collection id =
        if edit.collection = .rules then 0
        else document.entries.carriers edit.collection id - 1 := by
  have checked := Edit.check_of_deletes deletes
  cases changed : edit.change context surroundings.newId document with
  | error error =>
      rw [Edit.serve_of_rejected known checked changed] at served
      cases served
  | ok result =>
      obtain ⟨written, receipt⟩ := result
      rw [Edit.serve_of_changed known checked changed] at served
      cases served
      have stored := Store.find?_after_update written context.key known rfl
      rw [if_pos rfl] at stored
      have carried : 0 < document.entries.carriers edit.collection id := by
        by_contra none
        have absent := Maps.carriers_eq_zero_iff.mp (Nat.eq_zero_of_not_pos none)
        rw [Edit.change_of_absent (Edit.target?_of_deletes deletes) absent] at changed
        cases changed
      refine ⟨written, stored, carried, ?_⟩
      rw [Edit.eq_outcome_of_change changed]
      exact Edit.carriers_outcome deletes

/-- A deletion that succeeds takes all rules with its id, and one record of any other kind. The id is
gone if no other record had it, and otherwise it remains. -/
theorem deletion_leaves_twins
    (known : store.find? context.key = some ⟨document, counter⟩)
    (deletes : edit.task = .delete id cascades)
    (served : (edit.operation context).serve surroundings store = (.ok outcome, after)) :
    (Gone context after edit.collection id ↔
      edit.collection = .rules ∨ document.entries.carriers edit.collection id = 1) ∧
    (Remains context after edit.collection id ↔
      edit.collection ≠ .rules ∧ 1 < document.entries.carriers edit.collection id) ∧
    ∃ written : PipelineDocument,
      after.find? context.key = some ⟨written, counter + 1⟩ ∧
      written.entries.carriers edit.collection id =
        if edit.collection = .rules then 0
        else document.entries.carriers edit.collection id - 1 := by
  obtain ⟨written, stored, carried, left⟩ := stored_of_deletion known deletes served
  rw [gone_iff stored, remains_iff stored]
  refine ⟨?_, ?_, written, stored, left⟩
  all_goals
    rw [left]
    by_cases isRule : edit.collection = .rules
  · simp [isRule]
  · simp only [isRule, ↓reduceIte, false_or]
    omega
  · simp [isRule]
  · simp only [isRule, ↓reduceIte, ne_eq, not_false_eq_true, true_and]
    omega

end Deletions

/-! ## A pipeline with twins

Another writer has stored two records of each kind under one id. -/

namespace Twins

def context : Context :=
  ⟨{}, ⟨"default", "sales"⟩⟩

def surroundings : Surroundings :=
  ⟨"new", fun _ => .error (.interrupted .cancelled)⟩

def document : PipelineDocument where
  extractSources := [{ id := "s", path := "/orders" }, { id := "s", path := "/returns" }]
  extractRules := [{ id := "r", columnName := "total" }, { id := "r", columnName := "tax" }]
  extensions := [{ id := "e", name := "notify" }, { id := "e", name := "archive" }]
  transformFunctions := [{ id := "f", name := "trim" }, { id := "f", name := "round" }]

def store : Store :=
  ⟨[(context.key, ⟨document, 4⟩)]⟩

def deletion : Collection → Edit
  | .sources => .deleteSource "s" .cascade
  | .rules => .deleteRule "r"
  | .extensions => .deleteExtension "e"
  | .functions => .deleteFunction "f"

def id : Collection → String
  | .sources => "s"
  | .rules => "r"
  | .extensions => "e"
  | .functions => "f"

theorem find?_store : store.find? context.key = some ⟨document, 4⟩ := rfl

theorem task_deletion (collection : Collection) :
    ∃ cascades, (deletion collection).task = .delete (id collection) cascades := by
  cases collection
  all_goals exact ⟨_, rfl⟩

theorem collection_deletion (collection : Collection) :
    (deletion collection).collection = collection := by
  cases collection
  all_goals rfl

theorem carriers_id (collection : Collection) :
    document.entries.carriers collection (id collection) = 2 := by
  cases collection
  all_goals decide

theorem serve_deletion (collection : Collection) :
    ∃ outcome after,
      ((deletion collection).operation context).serve surroundings store = (.ok outcome, after) := by
  obtain ⟨cascades, deletes⟩ := task_deletion collection
  have carried : 0 < document.entries.carriers collection (id collection) := by
    rw [carriers_id]
    decide
  have remains := remains_of_carried find?_store (Maps.carriers_pos_iff.mp carried)
  exact remains.deleted surroundings _ _ (collection_deletion collection) deletes

end Twins

theorem deletion_leaves_twins_twice :
    (∃ outcome after,
      ((Twins.deletion .rules).operation Twins.context).serve Twins.surroundings Twins.store =
          (.ok outcome, after) ∧
        Gone Twins.context after .rules "r") ∧
    ∃ outcome after,
      ((Twins.deletion .sources).operation Twins.context).serve Twins.surroundings Twins.store =
          (.ok outcome, after) ∧
        Remains Twins.context after .sources "s" := by
  constructor
  · obtain ⟨outcome, after, served⟩ := Twins.serve_deletion .rules
    have deletes : (Twins.deletion .rules).task = .delete "r" false := rfl
    obtain ⟨gone, -, -⟩ := deletion_leaves_twins Twins.find?_store deletes served
    exact ⟨outcome, after, served, gone.mpr (Or.inl rfl)⟩
  · obtain ⟨outcome, after, served⟩ := Twins.serve_deletion .sources
    have deletes : (Twins.deletion .sources).task = .delete "s" true := rfl
    obtain ⟨-, remains, -⟩ := deletion_leaves_twins Twins.find?_store deletes served
    have several : 1 < Twins.document.entries.carriers .sources "s" := by decide
    exact ⟨outcome, after, served, remains.mpr ⟨by decide, several⟩⟩

/-- Not every deletion that succeeds removes its id. -/
theorem deletion_incomplete :
    ¬ ∀ surroundings store after context document counter edit id cascades outcome,
      Store.find? store context.key = some ⟨document, counter⟩ →
      Edit.task edit = .delete id cascades →
      (edit.operation context).serve surroundings store = (.ok outcome, after) →
      Gone context after edit.collection id := by
  intro complete
  obtain ⟨outcome, after, served⟩ := Twins.serve_deletion .extensions
  have deletes : (Twins.deletion .extensions).task = .delete "e" false := rfl
  have gone := complete _ _ _ _ _ _ _ _ _ _ Twins.find?_store deletes served
  obtain ⟨written, stored, -, left⟩ := stored_of_deletion Twins.find?_store deletes served
  have none := (gone_iff stored).mp gone
  have one : written.entries.carriers .extensions "e" = 1 := left
  have zero : written.entries.carriers .extensions "e" = 0 := none
  omega

end PipelineRegistry
