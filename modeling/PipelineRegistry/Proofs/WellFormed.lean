import PipelineRegistry.Proofs.ConcurrentCreations
import PipelineRegistry.Proofs.Decoding
import PipelineRegistry.Proofs.Invariants

/-!
# Well-formed documents

The checks of payloads are about entities, and what is stored are records. A source that was decoded
passes its check exactly when its record is well formed. Updates of rules and extensions check fewer
fields than creations do; the fields that they do not check are those that they leave as they are.
-/

namespace PipelineRegistry

open Registry

/-! ## Well-formed records -/

structure ExtractSourceRecord.WellFormed (record : ExtractSourceRecord) : Prop where
  name : Filled record.name
  path : Filled record.path
  tablename : Filled record.tablename
  scheme : ∃ scheme,
    Scheme.ofText? record.scheme = some scheme ∧ record.scheme = scheme.text ∧
      SchemeDemands scheme record.regex record.skipHeaders

structure ExtractRuleRecord.WellFormed (record : ExtractRuleRecord) : Prop where
  extractSourceId : Filled record.extractSourceId
  columnName : Filled record.columnName
  columnPath : Filled record.columnPath
  columnType : Filled record.columnType

structure ExtensionRecord.WellFormed (record : ExtensionRecord) : Prop where
  extractSourceId : Filled record.extractSourceId
  name : Filled record.name
  path : Filled record.path

structure TransformFunctionRecord.WellFormed (record : TransformFunctionRecord) : Prop where
  name : Filled record.name
  source : Filled record.source

structure PipelineDocument.WellFormed (document : PipelineDocument) : Prop where
  sources : ∀ record ∈ document.extractSources, record.WellFormed
  rules : ∀ record ∈ document.extractRules, record.WellFormed
  extensions : ∀ record ∈ document.extensions, record.WellFormed
  functions : ∀ record ∈ document.transformFunctions, record.WellFormed

theorem PipelineDocument.wellFormed_empty : ({} : PipelineDocument).WellFormed where
  sources := by simp
  rules := by simp
  extensions := by simp
  functions := by simp

/-! ## Payloads that pass their checks -/

section Payloads

variable {id : String}

theorem ExtractSource.check_iff_wellFormed
    {source : ExtractSource} (named : source.SchemeNamed) :
    checkSource source = .ok () ↔ source.record.WellFormed := by
  rw [checkSource_eq_ok_iff]
  constructor
  · rintro ⟨name, path, ⟨scheme, given, demands⟩, tablename⟩
    obtain ⟨text, isText⟩ := named scheme given
    have stored : source.record.scheme = scheme.text := by
      simp [ExtractSource.record, given]
    refine ⟨name, path, tablename, scheme, ?_, stored, demands⟩
    rw [stored]
    exact Scheme.ofText?_text isText
  · rintro ⟨name, path, tablename, scheme, parsed, stored, demands⟩
    refine ⟨name, path, ⟨scheme, ?_, demands⟩, tablename⟩
    cases given : source.scheme with
    | none =>
        have empty : source.record.scheme = "" := by
          simp [ExtractSource.record, given]
        rw [empty, Scheme.ofText?_empty] at parsed
        cases parsed
    | some own =>
        obtain ⟨text, isText⟩ := named own given
        have same : source.record.scheme = own.text := by
          simp [ExtractSource.record, given]
        rw [same, Scheme.ofText?_text isText] at parsed
        exact parsed

theorem ExtractSourceRecord.WellFormed.withId
    {record : ExtractSourceRecord} (wellFormed : record.WellFormed) (id : String) :
    ({ record with id := id } : ExtractSourceRecord).WellFormed :=
  ⟨wellFormed.name, wellFormed.path, wellFormed.tablename, wellFormed.scheme⟩

theorem ExtractRule.wellFormed_of_check
    {rule : ExtractRule} (checked : checkNewRule rule = .ok ()) :
    ({ rule.record with id := id } : ExtractRuleRecord).WellFormed := by
  obtain ⟨extractSourceId, columnName, columnPath, columnType⟩ := checkNewRule_eq_ok_iff.mp checked
  exact ⟨extractSourceId, columnName, columnPath, columnType⟩

theorem ExtractRuleRecord.WellFormed.replaced
    {record : ExtractRuleRecord} {rule : ExtractRule} (wellFormed : record.WellFormed)
    (checked : checkReplacingRule rule = .ok ()) :
    (ruleReplaced rule record).WellFormed := by
  obtain ⟨columnName, columnPath⟩ := checkReplacingRule_eq_ok_iff.mp checked
  exact ⟨wellFormed.extractSourceId, columnName, columnPath, wellFormed.columnType⟩

theorem Extension.wellFormed_of_check
    {extension : Extension} (checked : checkNewExtension extension = .ok ()) :
    ({ extension.record with id := id } : ExtensionRecord).WellFormed := by
  obtain ⟨extractSourceId, name, path⟩ := checkNewExtension_eq_ok_iff.mp checked
  exact ⟨extractSourceId, name, path⟩

theorem ExtensionRecord.WellFormed.replaced
    {record : ExtensionRecord} {extension : Extension} (wellFormed : record.WellFormed)
    (checked : checkReplacingExtension extension = .ok ()) :
    ({ record with name := extension.name, path := extension.path } :
      ExtensionRecord).WellFormed := by
  obtain ⟨name, path⟩ := checkReplacingExtension_eq_ok_iff.mp checked
  exact ⟨wellFormed.extractSourceId, name, path⟩

theorem TransformFunction.wellFormed_of_check
    {function : TransformFunction} (checked : checkFunction function = .ok ()) :
    ({ id := id, name := function.name, source := function.source } :
      TransformFunctionRecord).WellFormed := by
  obtain ⟨name, source⟩ := checkFunction_eq_ok_iff.mp checked
  exact ⟨name, source⟩

end Payloads

/-! ## Lists in which all elements are good -/

section Lists

variable {α : Type} {good : α → Prop} {list : List α}

theorem forall_mem_concat
    (all : ∀ element ∈ list, good element) {last : α} (goodToo : good last) :
    ∀ element ∈ list ++ [last], good element := by
  intro element member
  rcases List.mem_append.mp member with member | member
  · exact all element member
  · obtain rfl := List.mem_singleton.mp member
    exact goodToo

theorem forall_mem_map
    {change : α → α} (all : ∀ element ∈ list, good element)
    (keeps : ∀ element, good element → good (change element)) :
    ∀ element ∈ list.map change, good element := by
  intro element member
  obtain ⟨former, inList, rfl⟩ := List.mem_map.mp member
  exact keeps former (all former inList)

theorem forall_mem_replaceFirst
    {matching : α → Bool} {change : α → α} (all : ∀ element ∈ list, good element)
    (keeps : ∀ element, good element → good (change element)) :
    ∀ element ∈ replaceFirst matching change list, good element := by
  induction list with
  | nil => exact all
  | cons first rest inductionHypothesis =>
      obtain ⟨firstGood, restGood⟩ := List.forall_mem_cons.mp all
      rw [replaceFirst]
      split
      · exact List.forall_mem_cons.mpr ⟨keeps first firstGood, restGood⟩
      · exact List.forall_mem_cons.mpr ⟨firstGood, inductionHypothesis restGood⟩

theorem forall_mem_of_sublist
    {rest : List α} (sublist : rest.Sublist list) (all : ∀ element ∈ list, good element) :
    ∀ element ∈ rest, good element :=
  fun element member => all element (sublist.subset member)

end Lists

/-! ## Edits -/

namespace PipelineDocument.WellFormed

variable {document : PipelineDocument} {id newId : String}

theorem withoutSource (wellFormed : document.WellFormed) (mode : DeleteMode) :
    (Registry.withoutSource id mode document).WellFormed := by
  have remaining := forall_mem_of_sublist (List.eraseP_sublist (p := (·.id == id)))
    wellFormed.sources
  cases mode with
  | orphan => exact { wellFormed with sources := remaining }
  | cascade =>
      exact
        { wellFormed with
          sources := remaining
          rules := forall_mem_of_sublist List.filter_sublist wellFormed.rules
          extensions := forall_mem_of_sublist List.filter_sublist wellFormed.extensions }

/-- Edits that pass their checks keep documents well formed. -/
theorem outcome
    (wellFormed : document.WellFormed) {edit : Edit} (decoded : edit.Decoded)
    (checked : edit.check = .ok ()) :
    (edit.outcome newId document).WellFormed := by
  cases edit with
  | createSource source =>
      obtain ⟨json, decoded⟩ := decoded
      have named := ExtractSource.schemeNamed_of_decode decoded
      have record := (ExtractSource.check_iff_wellFormed named).mp checked
      exact { wellFormed with
        sources := forall_mem_concat wellFormed.sources (record.withId newId) }
  | updateSource id source =>
      obtain ⟨json, decoded⟩ := decoded
      have named := ExtractSource.schemeNamed_of_decode decoded
      have record := (ExtractSource.check_iff_wellFormed named).mp checked
      refine { wellFormed with sources := forall_mem_map wellFormed.sources ?_ }
      intro stored storedWellFormed
      split
      · exact record.withId id
      · exact storedWellFormed
  | deleteSource id mode => exact wellFormed.withoutSource mode
  | createRule rule =>
      exact { wellFormed with
        rules := forall_mem_concat wellFormed.rules (ExtractRule.wellFormed_of_check checked) }
  | updateRule id rule =>
      refine { wellFormed with rules := forall_mem_map wellFormed.rules ?_ }
      intro stored storedWellFormed
      split
      · exact storedWellFormed.replaced checked
      · exact storedWellFormed
  | deleteRule id =>
      exact { wellFormed with
        rules := forall_mem_of_sublist List.filter_sublist wellFormed.rules }
  | createExtension extension =>
      exact { wellFormed with
        extensions :=
          forall_mem_concat wellFormed.extensions (Extension.wellFormed_of_check checked) }
  | updateExtension id extension =>
      exact { wellFormed with
        extensions :=
          forall_mem_replaceFirst wellFormed.extensions fun _ stored => stored.replaced checked }
  | deleteExtension id =>
      exact { wellFormed with
        extensions := forall_mem_of_sublist List.eraseP_sublist wellFormed.extensions }
  | createFunction function =>
      exact { wellFormed with
        functions :=
          forall_mem_concat wellFormed.functions (TransformFunction.wellFormed_of_check checked) }
  | updateFunction id function =>
      exact { wellFormed with
        functions :=
          forall_mem_replaceFirst wellFormed.functions fun _ _ =>
            TransformFunction.wellFormed_of_check checked }
  | deleteFunction id =>
      exact { wellFormed with
        functions := forall_mem_of_sublist List.eraseP_sublist wellFormed.functions }

end PipelineDocument.WellFormed

/-! ## Payloads that are rejected -/

section Rejected

variable {surroundings : Surroundings} {store : Store} {context : Context}
  {document : PipelineDocument} {counter : Int} {edit : Edit} {source : ExtractSource}
  {id : String}

/-- An edit that is served alone is rejected as invalid, and nothing changes. -/
def Edit.RejectedAsInvalid (surroundings : Surroundings) (store : Store) (context : Context)
    (edit : Edit) : Prop :=
  ∃ error,
    (edit.operation context).serve surroundings store = (.error error, store) ∧
      error.kind = .validation

def Edit.Served (surroundings : Surroundings) (store : Store) (context : Context)
    (edit : Edit) : Prop :=
  ∃ outcome after, (edit.operation context).serve surroundings store = (.ok outcome, after)

theorem Edit.not_served_of_rejectedAsInvalid
    (rejected : edit.RejectedAsInvalid surroundings store context) :
    ¬ edit.Served surroundings store context := by
  rintro ⟨outcome, after, served⟩
  obtain ⟨error, failed, -⟩ := rejected
  rw [served] at failed
  cases failed

/-- An edit is rejected as invalid exactly when something is wrong, and is served
otherwise. -/
structure Edit.Judged (surroundings : Surroundings) (store : Store) (context : Context)
    (edit : Edit) (wrong : Prop) : Prop where
  rejected : edit.RejectedAsInvalid surroundings store context ↔ wrong
  decided : edit.RejectedAsInvalid surroundings store context ∨
    edit.Served surroundings store context

theorem Edit.judged_of_violated
    (known : store.find? context.key = some ⟨document, counter⟩)
    (violated : ∀ error, edit.change context surroundings.newId document = .error error →
      error.kind = .validation) :
    edit.Judged surroundings store context
      (¬ (edit.check = .ok () ∧ edit.Fits context document)) := by
  rcases Edit.serve_cases known with
    ⟨error, failed, served⟩ | ⟨checked, error, rejected, served⟩ |
    ⟨checked, written, receipt, changed, served⟩
  · obtain ⟨violation, rfl⟩ := edit.onlyViolations_check error failed
    have rejected : edit.RejectedAsInvalid surroundings store context := ⟨_, served, rfl⟩
    refine ⟨⟨fun _ => ?_, fun _ => rejected⟩, Or.inl rejected⟩
    rintro ⟨passed, -⟩
    rw [passed] at failed
    cases failed
  · have isRejected : edit.RejectedAsInvalid surroundings store context :=
      ⟨error, served, violated error rejected⟩
    refine ⟨⟨fun _ => ?_, fun _ => isRejected⟩, Or.inl isRejected⟩
    rintro ⟨-, fits⟩
    exact Edit.not_fits_of_change_error rejected fits
  · have isServed : edit.Served surroundings store context := ⟨_, _, served⟩
    refine ⟨⟨fun rejected => ?_, fun wrong => ?_⟩, Or.inr isServed⟩
    · exact absurd isServed (Edit.not_served_of_rejectedAsInvalid rejected)
    · exact absurd ⟨checked, Edit.fits_of_change changed⟩ wrong

theorem Edit.violated_of_createSource
    {newId : String} {error : RegistryError}
    (failed : (Edit.createSource source).change context newId document = .error error) :
    error.kind = .validation := by
  rw [Edit.change, Change.reporting_eq_error_iff] at failed
  unfold addSource at failed
  split at failed
  · cases failed
    rfl
  · cases failed

theorem Edit.violated_of_updateSource
    {newId : String} {error : RegistryError}
    (present : ∃ stored ∈ document.extractSources, stored.id = id)
    (failed : (Edit.updateSource id source).change context newId document = .error error) :
    error.kind = .validation := by
  rw [Edit.change, Change.reporting_eq_error_iff] at failed
  unfold replaceSource at failed
  split at failed
  case isTrue missing =>
    rw [Option.isNone_iff_eq_none, PipelineDocument.findSource?, List.find?_eq_none] at missing
    obtain ⟨stored, member, same⟩ := present
    exact absurd (by simpa using same) (missing stored member)
  case isFalse =>
    split at failed
    · cases failed
      rfl
    · cases failed

theorem Edit.fits_createSource_iff :
    (Edit.createSource source).Fits context document ↔
      ¬ ∃ stored ∈ document.extractSources, stored.path = source.path := by
  rw [Edit.Fits, pathTaken_eq_false_iff]
  simp

theorem Edit.fits_updateSource_iff
    (present : ∃ stored ∈ document.extractSources, stored.id = id) :
    (Edit.updateSource id source).Fits context document ↔
      ¬ ∃ stored ∈ document.extractSources, stored.path = source.path ∧ stored.id ≠ id := by
  have known : ∃ known, document.findSource? id = some known := by
    rw [← Option.isSome_iff_exists, PipelineDocument.findSource?, List.find?_isSome]
    simpa using present
  rw [Edit.Fits, pathTaken_eq_false_iff]
  simp [known]

theorem Edit.judged_createSource
    (known : store.find? context.key = some ⟨document, counter⟩)
    (decoded : (Edit.createSource source).Decoded) :
    (Edit.createSource source).Judged surroundings store context
      (¬ source.record.WellFormed ∨
        ∃ stored ∈ document.extractSources, stored.path = source.path) := by
  obtain ⟨json, decoded⟩ := decoded
  have exact := ExtractSource.check_iff_wellFormed (ExtractSource.schemeNamed_of_decode decoded)
  have judged : (Edit.createSource source).Judged surroundings store context _ :=
    Edit.judged_of_violated known fun error => Edit.violated_of_createSource
  rw [Edit.check, exact, Edit.fits_createSource_iff, Classical.not_and_iff_not_or_not,
    Classical.not_not] at judged
  exact judged

theorem Edit.judged_updateSource
    (known : store.find? context.key = some ⟨document, counter⟩)
    (decoded : (Edit.updateSource id source).Decoded)
    (present : ∃ stored ∈ document.extractSources, stored.id = id) :
    (Edit.updateSource id source).Judged surroundings store context
      (¬ source.record.WellFormed ∨
        ∃ stored ∈ document.extractSources, stored.path = source.path ∧ stored.id ≠ id) := by
  obtain ⟨json, decoded⟩ := decoded
  have exact := ExtractSource.check_iff_wellFormed (ExtractSource.schemeNamed_of_decode decoded)
  have judged : (Edit.updateSource id source).Judged surroundings store context _ :=
    Edit.judged_of_violated known fun error => Edit.violated_of_updateSource present
  rw [Edit.check, exact, Edit.fits_updateSource_iff present, Classical.not_and_iff_not_or_not,
    Classical.not_not] at judged
  exact judged

end Rejected

/-! ## Runs -/

/-- All that is stored in the course of a run is well formed, and the checks of
sources are exact: served by a store without faults, a payload is rejected as
invalid if its record would not be well formed or its path is the one of another
source, and is accepted otherwise. -/
theorem wellFormed_of_run
    {reliability : Reliability} {initial : Store} {final : Database} {trace : List Event}
    (run : Run reliability initial trace final)
    (wellFormed : initial.All PipelineDocument.WellFormed)
    (decoded : ∀ caller context edit,
      .invoked caller context (.edit edit) ∈ trace → edit.Decoded)
    (outside : ∀ key document version,
      .rival (.update key document version) ∈ trace → document.WellFormed) :
    final.store.All PipelineDocument.WellFormed ∧
    ∀ surroundings store context document counter source id,
      store.find? context.key = some ⟨document, counter⟩ →
      ((Edit.createSource source).Decoded →
        (Edit.createSource source).Judged surroundings store context
          (¬ source.record.WellFormed ∨
            ∃ stored ∈ document.extractSources, stored.path = source.path)) ∧
      ((Edit.updateSource id source).Decoded →
        (∃ stored ∈ document.extractSources, stored.id = id) →
        (Edit.updateSource id source).Judged surroundings store context
          (¬ source.record.WellFormed ∨
            ∃ stored ∈ document.extractSources, stored.path = source.path ∧ stored.id ≠ id)) := by
  constructor
  · refine run.all_of_edits PipelineDocument.wellFormed_empty wellFormed outside ?_
    intro caller context edit newId document written receipt asked checked documentWellFormed changed
    rw [Edit.eq_outcome_of_change changed]
    exact documentWellFormed.outcome (decoded caller context edit asked) checked
  · intro surroundings store context document counter source id known
    exact ⟨Edit.judged_createSource known, Edit.judged_updateSource known⟩

/-! ## Judging payloads behind a run

When both sources have been created, a third one cannot have the path of the first, but the first one
can keep it. -/

namespace TwoSources

def json (path : String) : Json :=
  .record [("name", .text "orders"), ("path", .text path), ("scheme", .text "csv"),
    ("regex", .text ".*"), ("tablename", .text "orders")]

theorem decode_json (path : String) : ExtractSource.decode (json path) = .ok (source path) :=
  rfl

theorem wellFormed_initial : initial.All PipelineDocument.WellFormed := by
  intro key stored found
  obtain ⟨-, rfl⟩ := Store.find?_of_single found
  exact PipelineDocument.wellFormed_empty

theorem decoded_of_invoked
    (caller : Nat) (asking : Context) (edit : Edit)
    (asked : .invoked caller asking (.edit edit) ∈ trace) :
    edit.Decoded := by
  obtain ⟨-, ⟨-, rfl⟩ | ⟨-, rfl⟩⟩ := invoked_cases asked
  · exact ⟨_, decode_json "/a"⟩
  · exact ⟨_, decode_json "/b"⟩

theorem not_rival (key : PipelineKey) (document : PipelineDocument) (version : Version)
    (member : .rival (.update key document version) ∈ trace) : document.WellFormed := by
  simp [trace] at member

theorem find?_final : final.find? context.key = some ⟨both, 3⟩ := by
  have stored := Store.find?_after_update both context.key find?_middle rfl
  rw [if_pos rfl] at stored
  exact stored

theorem wellFormed_record : (source "/a").record.WellFormed :=
  (ExtractSource.check_iff_wellFormed (ExtractSource.schemeNamed_of_decode (decode_json "/a"))).mp
    rfl

end TwoSources

theorem wellFormed_of_run_twoSources :
    (Run .faultless TwoSources.initial TwoSources.trace { store := TwoSources.final } ∧
      TwoSources.initial.All PipelineDocument.WellFormed ∧
      (∀ caller context edit,
        .invoked caller context (.edit edit) ∈ TwoSources.trace → edit.Decoded) ∧
      ∀ key document version,
        .rival (.update key document version) ∈ TwoSources.trace → document.WellFormed) ∧
    TwoSources.final.All PipelineDocument.WellFormed ∧
    ∀ surroundings,
      (Edit.createSource (TwoSources.source "/a")).RejectedAsInvalid surroundings
        TwoSources.final TwoSources.context ∧
      (Edit.updateSource "1" (TwoSources.source "/a")).Served surroundings
        TwoSources.final TwoSources.context := by
  have result := wellFormed_of_run TwoSources.run TwoSources.wellFormed_initial
    TwoSources.decoded_of_invoked TwoSources.not_rival
  refine ⟨⟨TwoSources.run, TwoSources.wellFormed_initial, TwoSources.decoded_of_invoked,
    TwoSources.not_rival⟩, result.1, ?_⟩
  intro surroundings
  obtain ⟨creation, update⟩ := result.2 surroundings TwoSources.final TwoSources.context
    TwoSources.both 3 (TwoSources.source "/a") "1" TwoSources.find?_final
  have created := creation ⟨_, TwoSources.decode_json "/a"⟩
  have updated := update ⟨_, TwoSources.decode_json "/a"⟩ ⟨_, List.mem_cons_self, rfl⟩
  refine ⟨created.rejected.mpr (Or.inr ⟨_, List.mem_cons_self, rfl⟩), ?_⟩
  refine updated.decided.resolve_left fun rejected => ?_
  rcases updated.rejected.mp rejected with wrong | ⟨stored, member, samePath, otherId⟩
  · exact wrong TwoSources.wellFormed_record
  · simp only [TwoSources.both, List.mem_cons, List.not_mem_nil, or_false] at member
    rcases member with rfl | rfl
    · exact otherId rfl
    · exact absurd samePath (by decide)

end PipelineRegistry
