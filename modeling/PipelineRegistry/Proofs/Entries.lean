import PipelineRegistry.Proofs.Command
import PipelineRegistry.Proofs.Creations
import PipelineRegistry.Proofs.Decoding

/-!
# Entries in order

To clients a document is four maps from ids to entries, which keep the order in which the entries
were created. What an edit asks for is a task on one of the maps: a new entry at the end, a change of
one entry in its place, or the removal of one. The laws of changes are restated for these maps; they
need that ids are unique, since some changes are made to the first record with an id and others to
all of them.
-/

namespace PipelineRegistry

open Registry

/-! ## Entries -/

/-- An entity of any kind, as clients see it. -/
inductive Entry
  | source (source : ExtractSource)
  | rule (rule : ExtractRule)
  | extension (extension : Extension)
  | function (function : TransformFunction)
  deriving DecidableEq, Repr

namespace Entry

def id : Entry → String
  | .source payload => payload.id
  | .rule payload => payload.id
  | .extension payload => payload.id
  | .function payload => payload.id

def withId (id : String) : Entry → Entry
  | .source payload => .source { payload with id := id }
  | .rule payload => .rule { payload with id := id }
  | .extension payload => .extension { payload with id := id }
  | .function payload => .function { payload with id := id }

/-- The source that an entry is bound to. -/
def sourceId? : Entry → Option String
  | .rule payload => some payload.extractSourceId
  | .extension payload => some payload.extractSourceId
  | .source _ | .function _ => none

/-- What a payload makes of an entry. A source takes all of it; other entries stay bound to their
source, and a rule keeps its type. -/
def revise : Entry → Entry → Entry
  | .source payload, .source stored => .source { payload with id := stored.id }
  | .rule payload, .rule stored =>
      .rule
        { stored with
          columnName := payload.columnName
          columnPath := payload.columnPath
          matchValues := payload.matchValues
          transformFunctionName := payload.transformFunctionName }
  | .extension payload, .extension stored =>
      .extension { stored with name := payload.name, path := payload.path }
  | .function payload, .function stored =>
      .function { stored with name := payload.name, source := payload.source }
  | _, stored => stored

end Entry

/-! ## Collections -/

inductive Collection
  | sources
  | rules
  | extensions
  | functions
  deriving DecidableEq, Repr

namespace Collection

def kind : Collection → EntityKind
  | sources => .extractSource
  | rules => .extractRule
  | extensions => .extension
  | functions => .transformFunction

def list : Collection → Reading
  | sources => .listSources
  | rules => .listRules
  | extensions => .listExtensions
  | functions => .listFunctions

def get (id : String) : Collection → Reading
  | sources => .getSource id
  | rules => .getRule id
  | extensions => .getExtension id
  | functions => .getFunction id

end Collection

/-- Four maps from ids to entries in the order of their creation. -/
abbrev Maps : Type :=
  Collection → List Entry

def PipelineDocument.entries (document : PipelineDocument) : Maps
  | .sources => document.extractSources.map fun record => .source record.entity
  | .rules => document.extractRules.map fun record => .rule record.entity
  | .extensions => document.extensions.map fun record => .extension record.entity
  | .functions => document.transformFunctions.map fun record => .function record.entity

namespace Reply

/-- The entries that a reply lists. -/
def entries? : Reply → Option (List Entry)
  | .sources list => some (list.map .source)
  | .rules list => some (list.map .rule)
  | .extensions list => some (list.map .extension)
  | .functions list => some (list.map .function)
  | _ => none

/-- The entry that a reply shows. -/
def entry? : Reply → Option Entry
  | .source detail => some (.source detail.source)
  | .rule shown => some (.rule shown)
  | .extension shown => some (.extension shown)
  | .function shown => some (.function shown)
  | _ => none

theorem entries?_stored (reply : Reply) : reply.stored.entries? = reply.entries? := by
  cases reply
  all_goals rfl

theorem entry?_stored (reply : Reply) : reply.stored.entry? = reply.entry? := by
  cases reply
  all_goals rfl

end Reply

/-! ## Tasks -/

/-- What an edit asks for. -/
inductive Task
  | create (payload : Entry)
  | update (id : String) (payload : Entry)
  | delete (id : String) (cascades : Bool)
  deriving DecidableEq, Repr

namespace Task

/-- What a task makes of the maps. Deletions that cascade take with them all that is bound to the
entry. -/
def apply (newId : String) (collection : Collection) (task : Task) (maps : Maps) : Maps :=
  fun other =>
    match task with
    | create payload =>
        if other = collection then maps other ++ [payload.withId newId] else maps other
    | update id payload =>
        if other = collection then
          (maps other).map fun entry => if entry.id = id then payload.revise entry else entry
        else maps other
    | delete id cascades =>
        if other = collection then (maps other).filter fun entry => entry.id ≠ id
        else if cascades then (maps other).filter fun entry => entry.sourceId? ≠ some id
        else maps other

theorem absent_of_delete
    {newId id : String} {collection : Collection} {cascades : Bool} {maps : Maps} :
    ∀ entry ∈ (delete id cascades).apply newId collection maps collection, entry.id ≠ id := by
  intro entry member
  simp only [apply, ↓reduceIte, List.mem_filter] at member
  simpa using member.2

end Task

namespace Edit

def collection : Edit → Collection
  | createSource _ | updateSource _ _ | deleteSource _ _ => .sources
  | createRule _ | updateRule _ _ | deleteRule _ => .rules
  | createExtension _ | updateExtension _ _ | deleteExtension _ => .extensions
  | createFunction _ | updateFunction _ _ | deleteFunction _ => .functions

def task : Edit → Task
  | createSource source => .create (.source source)
  | createRule rule => .create (.rule rule)
  | createExtension extension => .create (.extension extension)
  | createFunction function => .create (.function function)
  | updateSource id source => .update id (.source source)
  | updateRule id rule => .update id (.rule rule)
  | updateExtension id extension => .update id (.extension extension)
  | updateFunction id function => .update id (.function function)
  | deleteSource id mode => .delete id (mode = .cascade)
  | deleteRule id | deleteExtension id | deleteFunction id => .delete id false

end Edit

/-! ## Lists of entries -/

section Lists

variable {α : Type} {field : α → String} {list : List α}

theorem map_filter_of_agree
    {entry : α → Entry} {kept : α → Bool} {keeps : Entry → Bool}
    (agree : ∀ element, keeps (entry element) = kept element) :
    (list.filter kept).map entry = (list.map entry).filter keeps := by
  have same : keeps ∘ entry = kept := funext agree
  rw [List.filter_map, same]

theorem map_replace_of_agree
    {entry : α → Entry} {change : α → α} {revise : Entry → Entry} {id : String}
    (named : ∀ element, (entry element).id = field element)
    (agree : ∀ element, field element = id → entry (change element) = revise (entry element)) :
    (list.map fun element => if field element = id then change element else element).map entry =
      (list.map entry).map fun stored => if stored.id = id then revise stored else stored := by
  rw [List.map_map, List.map_map]
  apply List.map_congr_left
  intro element _
  simp only [Function.comp_apply, named]
  by_cases same : field element = id
  · rw [if_pos same, if_pos same, agree element same]
  · rw [if_neg same, if_neg same]

end Lists

/-! ## What edits make of the maps -/

/-- No two entries of a map have the same id. -/
def Maps.Unique (maps : Maps) : Prop :=
  ∀ collection, ((maps collection).map Entry.id).Nodup

section Outcomes

variable {document written : PipelineDocument} {newId id : String} {context : Context}
  {edit : Edit} {receipt : Receipt}

namespace PipelineDocument

theorem ids_sources (document : PipelineDocument) :
    (document.entries .sources).map Entry.id = document.extractSources.map (·.id) := by
  rw [entries, List.map_map]
  rfl

theorem ids_rules (document : PipelineDocument) :
    (document.entries .rules).map Entry.id = document.extractRules.map (·.id) := by
  rw [entries, List.map_map]
  rfl

theorem ids_extensions (document : PipelineDocument) :
    (document.entries .extensions).map Entry.id = document.extensions.map (·.id) := by
  rw [entries, List.map_map]
  rfl

theorem ids_functions (document : PipelineDocument) :
    (document.entries .functions).map Entry.id = document.transformFunctions.map (·.id) := by
  rw [entries, List.map_map]
  rfl

end PipelineDocument

/-- A source that was decoded is read under the id that it is stored under. -/
theorem ExtractSource.entity_record_withId
    {source : ExtractSource} (named : source.SchemeNamed) (id : String) :
    ({ source.record with id := id } : ExtractSourceRecord).entity = { source with id := id } := by
  have namedToo : ({ source with id := id } : ExtractSource).SchemeNamed := named
  exact namedToo.entity_record

namespace Edit

theorem entries_createSource
    {source : ExtractSource} (named : source.SchemeNamed) :
    ((createSource source).outcome newId document).entries =
      (createSource source).task.apply newId .sources document.entries := by
  have read := ExtractSource.entity_record_withId named newId
  funext other
  cases other with
  | sources =>
      simp only [outcome, PipelineDocument.entries, task, Task.apply, Entry.withId, List.map_append,
        List.map_singleton, read, ↓reduceIte]
  | _ => rfl

theorem entries_updateSource
    {source : ExtractSource} (named : source.SchemeNamed) :
    ((updateSource id source).outcome newId document).entries =
      (updateSource id source).task.apply newId .sources document.entries := by
  have read := ExtractSource.entity_record_withId named id
  funext other
  cases other with
  | sources =>
      apply map_replace_of_agree (fun _ => rfl)
      intro stored same
      subst same
      rw [read]
      rfl
  | _ => rfl

theorem entries_deleteSource {mode : DeleteMode} (unique : document.entries.Unique) :
    ((deleteSource id mode).outcome newId document).entries =
      (deleteSource id mode).task.apply newId .sources document.entries := by
  have first : document.extractSources.eraseP (·.id == id) =
      document.extractSources.filter fun record => record.id ≠ id := by
    apply eraseP_eq_filter_of_nodup
    rw [← document.ids_sources]
    exact unique .sources
  have remaining :
      ((document.extractSources.eraseP (·.id == id)).map fun record => Entry.source record.entity) =
        (document.entries .sources).filter fun entry => entry.id ≠ id := by
    rw [first]
    exact map_filter_of_agree fun _ => rfl
  funext other
  cases mode with
  | orphan =>
      cases other with
      | sources => exact remaining
      | _ => rfl
  | cascade =>
      cases other with
      | sources => exact remaining
      | rules =>
          apply map_filter_of_agree
          intro record
          simp [Entry.sourceId?, ExtractRuleRecord.entity, bne, Bool.beq_eq_decide_eq]
      | extensions =>
          apply map_filter_of_agree
          intro record
          simp [Entry.sourceId?, ExtensionRecord.entity, bne, Bool.beq_eq_decide_eq]
      | functions =>
          symm
          apply List.filter_eq_self.mpr
          intro entry member
          obtain ⟨record, _, rfl⟩ := List.mem_map.mp member
          rfl

/-- What an edit makes of a document is its task on the maps. -/
theorem entries_outcome (unique : document.entries.Unique) (decoded : edit.Decoded) :
    (edit.outcome newId document).entries =
      edit.task.apply newId edit.collection document.entries := by
  cases edit with
  | createSource source =>
      obtain ⟨json, decoded⟩ := decoded
      exact entries_createSource (ExtractSource.schemeNamed_of_decode decoded)
  | updateSource id source =>
      obtain ⟨json, decoded⟩ := decoded
      exact entries_updateSource (ExtractSource.schemeNamed_of_decode decoded)
  | deleteSource id mode => exact entries_deleteSource unique
  | createRule rule =>
      funext other
      cases other with
      | rules => exact List.map_append
      | _ => rfl
  | updateRule id rule =>
      funext other
      cases other with
      | rules => exact map_replace_of_agree (fun _ => rfl) fun _ _ => rfl
      | _ => rfl
  | deleteRule id =>
      funext other
      cases other with
      | rules =>
          apply map_filter_of_agree
          intro record
          by_cases same : record.id = id
          · simp [Entry.id, ExtractRuleRecord.entity, same]
          · simp [Entry.id, ExtractRuleRecord.entity, same]
      | _ => rfl
  | createExtension extension =>
      funext other
      cases other with
      | extensions => exact List.map_append
      | _ => rfl
  | updateExtension id extension =>
      funext other
      cases other with
      | extensions =>
          have all := replaceFirst_eq_map_of_nodup (document.ids_extensions ▸ unique .extensions) id
            fun stored => { stored with name := extension.name, path := extension.path }
          simp only [outcome, PipelineDocument.entries, all]
          exact map_replace_of_agree (fun _ => rfl) fun _ _ => rfl
      | _ => rfl
  | deleteExtension id =>
      funext other
      cases other with
      | extensions =>
          have first := eraseP_eq_filter_of_nodup (document.ids_extensions ▸ unique .extensions) id
          simp only [outcome, PipelineDocument.entries, first]
          exact map_filter_of_agree fun _ => rfl
      | _ => rfl
  | createFunction function =>
      funext other
      cases other with
      | functions => exact List.map_append
      | _ => rfl
  | updateFunction id function =>
      funext other
      cases other with
      | functions =>
          have all := replaceFirst_eq_map_of_nodup (document.ids_functions ▸ unique .functions) id
            fun stored => { stored with name := function.name, source := function.source }
          simp only [outcome, PipelineDocument.entries, all]
          exact map_replace_of_agree (fun _ => rfl) fun _ _ => rfl
      | _ => rfl
  | deleteFunction id =>
      funext other
      cases other with
      | functions =>
          have first := eraseP_eq_filter_of_nodup (document.ids_functions ▸ unique .functions) id
          simp only [outcome, PipelineDocument.entries, first]
          exact map_filter_of_agree fun _ => rfl
      | _ => rfl

/-! ## Targets -/

theorem find?_eq_none_of_absent
    {α : Type} {list : List α} {entry : α → Entry} {field : α → String}
    (named : ∀ element, (entry element).id = field element)
    (absent : ∀ stored ∈ list.map entry, stored.id ≠ id) :
    list.find? (field · == id) = none := by
  rw [List.find?_eq_none]
  intro element member same
  apply absent (entry element) (List.mem_map_of_mem member)
  rw [named]
  simpa using same

/-- An edit of an entry that is not there does not find it. -/
theorem change_of_absent
    (targeted : edit.target? = some id)
    (absent : ∀ entry ∈ document.entries edit.collection, entry.id ≠ id) :
    edit.change context newId document = .error (.notFound edit.collection.kind id) := by
  cases edit with
  | createSource _ | createRule _ | createExtension _ | createFunction _ => cases targeted
  | updateSource target source =>
      cases targeted
      have none : document.findSource? id = none :=
        find?_eq_none_of_absent (fun _ => rfl) absent
      simp [change, Change.reporting, replaceSource, none, Except.map, collection, Collection.kind]
  | deleteSource target mode =>
      cases targeted
      have none : document.findSource? id = none :=
        find?_eq_none_of_absent (fun _ => rfl) absent
      simp [change, Change.reporting, removeSource, none, Except.map, collection, Collection.kind]
  | updateRule target rule =>
      cases targeted
      have none : document.extractRules.find? (·.id == id) = none :=
        find?_eq_none_of_absent (fun _ => rfl) absent
      simp only [change, Change.reporting, replaceRule, none]
      rfl
  | deleteRule target =>
      cases targeted
      have all : document.extractRules.filter (·.id != id) = document.extractRules := by
        apply List.filter_eq_self.mpr
        intro record member
        have differs : record.id ≠ id := absent (.rule record.entity) (List.mem_map_of_mem member)
        simpa using differs
      simp [change, Change.reporting, removeRule, all, Except.map, collection, Collection.kind]
  | updateExtension target extension =>
      cases targeted
      have none : document.extensions.find? (·.id == id) = none :=
        find?_eq_none_of_absent (fun _ => rfl) absent
      simp only [change, Change.reporting, replaceExtension, none]
      rfl
  | deleteExtension target =>
      cases targeted
      have none : document.extensions.find? (·.id == id) = none :=
        find?_eq_none_of_absent (fun _ => rfl) absent
      simp only [change, Change.reporting, removeExtension, none]
      rfl
  | updateFunction target function =>
      cases targeted
      have none : document.transformFunctions.find? (·.id == id) = none :=
        find?_eq_none_of_absent (fun _ => rfl) absent
      simp only [change, Change.reporting, replaceFunction, none]
      rfl
  | deleteFunction target =>
      cases targeted
      have none : document.transformFunctions.find? (·.id == id) = none :=
        find?_eq_none_of_absent (fun _ => rfl) absent
      simp only [change, Change.reporting, removeFunction, none]
      rfl

/-- Ids stay unique if the new id, when there is one, is not in the document. -/
theorem unique_entries
    (unique : document.entries.Unique) (fresh : edit.isCreation = true → newId ∉ document.ids)
    (changed : edit.change context newId document = .ok (written, receipt)) :
    written.entries.Unique := by
  have descends := edit.descends changed
  have absent (creates : edit.isCreation = true) (collection : Collection) :
      newId ∉ (document.entries collection).map Entry.id := by
    have absent := fresh creates
    unfold PipelineDocument.ids at absent
    simp only [List.mem_append, not_or] at absent
    obtain ⟨⟨⟨sources, rules⟩, extensions⟩, functions⟩ := absent
    cases collection with
    | sources => rwa [document.ids_sources]
    | rules => rwa [document.ids_rules]
    | extensions => rwa [document.ids_extensions]
    | functions => rwa [document.ids_functions]
  intro collection
  have apart := unique collection
  have absentHere := fun creates => absent creates collection
  cases collection with
  | sources =>
      rw [PipelineDocument.ids_sources] at apart absentHere ⊢
      exact descends.sources.nodup apart absentHere
  | rules =>
      rw [PipelineDocument.ids_rules] at apart absentHere ⊢
      exact descends.rules.nodup apart absentHere
  | extensions =>
      rw [PipelineDocument.ids_extensions] at apart absentHere ⊢
      exact descends.extensions.nodup apart absentHere
  | functions =>
      rw [PipelineDocument.ids_functions] at apart absentHere ⊢
      exact descends.functions.nodup apart absentHere

end Edit

end Outcomes

end PipelineRegistry
