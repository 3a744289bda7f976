import Mathlib.Data.List.Nodup
import PipelineRegistry.Proofs.DocumentIds
import PipelineRegistry.Proofs.Rejections

/-!
# Checks of rules

A rule that is written has passed two checks, of its path against the scheme of its source and of the
function that it names. Both are about other collections of the same document, so later edits may
undo what was checked. Edits of sources do so only if they change the scheme of the source, and edits
of functions only if they rename or delete a function of that name.
-/

namespace PipelineRegistry

open Registry

/-! ## What is checked -/

namespace ExtractRuleRecord

/-- The path of a rule is valid for the scheme of its source. -/
def PathFits (document : PipelineDocument) (rule : ExtractRuleRecord) : Prop :=
  ColumnPath.validate (document.sourceScheme? rule.extractSourceId) rule.columnPath = .ok ()

/-- The function that a rule names, if it names one, is in the document. -/
def FunctionExists (document : PipelineDocument) (rule : ExtractRuleRecord) : Prop :=
  rule.transformFunctionName ≠ "" →
    document.hasTransformFunction rule.transformFunctionName = true

end ExtractRuleRecord

/-- A document has a source with an id. -/
def PipelineDocument.HasSource (document : PipelineDocument) (id : String) : Prop :=
  ∃ source ∈ document.extractSources, source.id = id

section Checks

variable {document written : PipelineDocument} {context : Context} {newId id name : String}
  {edit : Edit} {receipt : Receipt} {enforces : Bool} {payload : ExtractRule}

theorem checkRule_eq_ok_iff :
    checkRule enforces document id payload = .ok () ↔
      ColumnPath.validate (document.sourceScheme? id) payload.columnPath = .ok () ∧
        (enforces = true → payload.transformFunctionName ≠ "" →
          document.hasTransformFunction payload.transformFunctionName = true) := by
  unfold checkRule
  cases validated : ColumnPath.validate (document.sourceScheme? id) payload.columnPath with
  | error error => simp
  | ok passed =>
      simp only [true_and]
      split
      case isTrue missing =>
        simp only [Bool.and_eq_true, bne_iff_ne, ne_eq, Bool.not_eq_true'] at missing
        obtain ⟨⟨enforced, named⟩, absent⟩ := missing
        simp [enforced, named, absent]
      case isFalse present =>
        simp only [Bool.and_eq_true, bne_iff_ne, ne_eq, Bool.not_eq_true', not_and,
          Bool.not_eq_false, and_imp] at present
        simpa using present

/-! ## Rules that are written -/

namespace Edit

/-- An edit creates or updates the rule with an id. -/
def WritesRule (newId id : String) : Edit → Prop
  | createRule _ => newId = id
  | updateRule target _ => target = id
  | _ => False

theorem exists_written_rule
    (changed : edit.change context newId document = .ok (written, receipt))
    (writes : edit.WritesRule newId id) :
    ∃ rule ∈ written.extractRules, rule.id = id := by
  have fits := fits_of_change changed
  obtain rfl := eq_outcome_of_change changed
  cases edit with
  | createRule payload => exact ⟨_, List.mem_append_right _ List.mem_cons_self, writes⟩
  | updateRule target payload =>
      obtain ⟨first, known, -⟩ := fits
      have same : first.id = target := by simpa using List.find?_some known
      refine ⟨_, List.mem_map_of_mem (List.mem_of_find?_eq_some known), ?_⟩
      rw [if_pos same]
      exact same.trans writes
  | _ => cases writes

/-- A rule of a document that is written either was there before and is not
touched, or is written now and passes both checks. -/
theorem rule_of_change
    (unique : (document.extractRules.map (·.id)).Nodup)
    (fresh : edit.isCreation = true → newId ∉ document.extractRules.map (·.id))
    (changed : edit.change context newId document = .ok (written, receipt))
    {rule : ExtractRuleRecord} (member : rule ∈ written.extractRules) :
    (rule ∈ document.extractRules ∧ ¬ edit.WritesRule newId rule.id) ∨
    (edit.WritesRule newId rule.id ∧ rule.PathFits written ∧
      (context.settings.enforceFunctionReferences = true → rule.FunctionExists written)) := by
  have fits := fits_of_change changed
  obtain rfl := eq_outcome_of_change changed
  cases edit with
  | createRule payload =>
      rcases List.mem_append.mp member with old | new
      · refine Or.inl ⟨old, ?_⟩
        intro same
        apply fresh rfl
        rw [show newId = rule.id from same]
        exact List.mem_map_of_mem old
      · obtain rfl := List.mem_singleton.mp new
        obtain ⟨path, function⟩ := checkRule_eq_ok_iff.mp fits
        exact Or.inr ⟨rfl, path, function⟩
  | updateRule target payload =>
      obtain ⟨first, known, checked⟩ := fits
      obtain ⟨stored, inRules, rfl⟩ := List.mem_map.mp member
      by_cases same : stored.id = target
      · have firstId : first.id = target := by simpa using List.find?_some known
        obtain rfl := List.inj_on_of_nodup_map unique (List.mem_of_find?_eq_some known) inRules
          (firstId.trans same.symm)
        obtain ⟨path, function⟩ := checkRule_eq_ok_iff.mp checked
        rw [if_pos same]
        exact Or.inr ⟨same.symm, path, function⟩
      · rw [if_neg same]
        exact Or.inl ⟨inRules, fun targeted => same (Eq.symm targeted)⟩
  | deleteRule target => exact Or.inl ⟨(List.mem_filter.mp member).1, fun writes => writes⟩
  | deleteSource target mode =>
      cases mode with
      | orphan => exact Or.inl ⟨member, fun writes => writes⟩
      | cascade => exact Or.inl ⟨(List.mem_filter.mp member).1, fun writes => writes⟩
  | _ => exact Or.inl ⟨member, fun writes => writes⟩

/-- A rule is bound to a source by its creation, and no edit binds it to another. -/
theorem sourceId_of_change
    (changed : edit.change context newId document = .ok (written, receipt))
    {rule : ExtractRuleRecord} (member : rule ∈ written.extractRules) :
    (∃ former ∈ document.extractRules, former.extractSourceId = rule.extractSourceId) ∨
      ∃ payload, edit = .createRule payload ∧ payload.extractSourceId = rule.extractSourceId := by
  obtain rfl := eq_outcome_of_change changed
  cases edit with
  | createRule payload =>
      rcases List.mem_append.mp member with old | new
      · exact Or.inl ⟨rule, old, rfl⟩
      · obtain rfl := List.mem_singleton.mp new
        exact Or.inr ⟨payload, rfl, rfl⟩
  | updateRule target payload =>
      obtain ⟨stored, inRules, rfl⟩ := List.mem_map.mp member
      refine Or.inl ⟨stored, inRules, ?_⟩
      split
      · rfl
      · rfl
  | deleteRule target => exact Or.inl ⟨rule, (List.mem_filter.mp member).1, rfl⟩
  | deleteSource target mode =>
      cases mode with
      | orphan => exact Or.inl ⟨rule, member, rfl⟩
      | cascade => exact Or.inl ⟨rule, (List.mem_filter.mp member).1, rfl⟩
  | _ => exact Or.inl ⟨rule, member, rfl⟩

end Edit

/-! ## Schemes of sources -/

theorem sourceScheme?_congr
    (same : written.findSource? id = document.findSource? id) :
    written.sourceScheme? id = document.sourceScheme? id := by
  unfold PipelineDocument.sourceScheme?
  rw [same]

theorem find?_replaced
    {source : ExtractSourceRecord} {target : String} (sameId : source.id = target)
    (differs : id ≠ target) (sources : List ExtractSourceRecord) :
    (sources.map fun stored => if stored.id = target then source else stored).find? (·.id == id) =
      sources.find? (·.id == id) := by
  induction sources with
  | nil => rfl
  | cons first rest inductionHypothesis =>
      rw [List.map_cons]
      by_cases replaced : first.id = target
      · rw [if_pos replaced, List.find?_cons_of_neg (by simpa [sameId] using differs.symm),
          List.find?_cons_of_neg (by simpa [replaced] using differs.symm), inductionHypothesis]
      · rw [if_neg replaced, List.find?_cons, List.find?_cons, inductionHypothesis]

theorem find?_removed
    {target : String} (differs : id ≠ target) (sources : List ExtractSourceRecord) :
    (sources.eraseP (·.id == target)).find? (·.id == id) = sources.find? (·.id == id) := by
  induction sources with
  | nil => rfl
  | cons first rest inductionHypothesis =>
      by_cases removed : first.id = target
      · rw [List.eraseP_cons_of_pos (by simpa using removed),
          List.find?_cons_of_neg (by simpa [removed] using differs.symm)]
      · rw [List.eraseP_cons_of_neg (by simpa using removed), List.find?_cons, List.find?_cons,
          inductionHypothesis]

namespace Edit

/-- An edit updates the source with an id. -/
def UpdatesSource (id : String) : Edit → Prop
  | updateSource target _ => target = id
  | _ => False

/-- A source of a document that is written either is created now, or was there
before with the same scheme unless it is updated now. -/
theorem source_of_change
    (unique : (document.extractSources.map (·.id)).Nodup)
    (changed : edit.change context newId document = .ok (written, receipt))
    (present : written.HasSource id) :
    (edit.isCreation = true ∧ newId = id) ∨
    (document.HasSource id ∧
      (edit.UpdatesSource id ∨ written.sourceScheme? id = document.sourceScheme? id)) := by
  obtain rfl := eq_outcome_of_change changed
  obtain ⟨source, member, sameId⟩ := present
  cases edit with
  | createSource payload =>
      rcases List.mem_append.mp member with old | new
      · refine Or.inr ⟨⟨source, old, sameId⟩, Or.inr ?_⟩
        have known : (document.extractSources.find? (·.id == id)).isSome = true :=
          List.find?_isSome.mpr ⟨source, old, by simpa using sameId⟩
        apply sourceScheme?_congr
        unfold PipelineDocument.findSource?
        rw [outcome, List.find?_append, Option.or_of_isSome known]
      · obtain rfl := List.mem_singleton.mp new
        exact Or.inl ⟨rfl, sameId⟩
  | updateSource target payload =>
      obtain ⟨stored, inSources, rfl⟩ := List.mem_map.mp member
      by_cases updated : target = id
      · refine Or.inr ⟨⟨stored, inSources, ?_⟩, Or.inl updated⟩
        split at sameId
        · exact Eq.trans ‹_› updated
        · exact sameId
      · have other : stored.id ≠ target := by
          intro replaced
          rw [if_pos replaced] at sameId
          exact updated sameId
        rw [if_neg other] at sameId
        refine Or.inr ⟨⟨stored, inSources, sameId⟩, Or.inr ?_⟩
        have ownId : ({ payload.record with id := target } : ExtractSourceRecord).id = target := rfl
        exact sourceScheme?_congr (find?_replaced ownId (Ne.symm updated) _)
  | deleteSource target mode =>
      have remaining : source ∈ document.extractSources.eraseP (·.id == target) := by
        cases mode with
        | orphan => exact member
        | cascade => exact member
      have inSources := List.mem_of_mem_eraseP remaining
      have differs : id ≠ target := by
        rw [eraseP_eq_filter_of_nodup unique target] at remaining
        have kept := (List.mem_filter.mp remaining).2
        rw [sameId] at kept
        simpa using kept
      refine Or.inr ⟨⟨source, inSources, sameId⟩, Or.inr ?_⟩
      apply sourceScheme?_congr
      have same := find?_removed differs document.extractSources
      cases mode with
      | orphan => exact same
      | cascade => exact same
  | _ => exact Or.inr ⟨⟨source, member, sameId⟩, Or.inr rfl⟩

/-! ## Functions -/

/-- An edit renames or deletes a function with a name. -/
def LosesFunction (document : PipelineDocument) (name : String) : Edit → Prop
  | updateFunction id function =>
      (∃ record, document.transformFunctions.find? (·.id == id) = some record ∧
        record.name = name) ∧ function.name ≠ name
  | deleteFunction id =>
      ∃ record, document.transformFunctions.find? (·.id == id) = some record ∧ record.name = name
  | _ => False

theorem any_replaceFirst
    {α : Type} {good matching : α → Bool} {change : α → α} {list : List α}
    (some : list.any good = true)
    (kept : ∀ element, list.find? matching = .some element → good element = true →
      good (change element) = true) :
    (replaceFirst matching change list).any good = true := by
  induction list with
  | nil => cases some
  | cons first rest inductionHypothesis =>
      rw [List.any_cons, Bool.or_eq_true] at some
      rw [replaceFirst]
      by_cases found : matching first = true
      · rw [if_pos found, List.any_cons, Bool.or_eq_true]
        exact some.imp_left fun isGood => kept first (List.find?_cons_of_pos found) isGood
      · rw [if_neg found, List.any_cons, Bool.or_eq_true]
        refine some.imp_right fun inRest => inductionHypothesis inRest ?_
        intro element known
        exact kept element ((List.find?_cons_of_neg found).trans known)

theorem any_eraseP
    {α : Type} {good matching : α → Bool} {list : List α} (some : list.any good = true)
    (kept : ∀ element, list.find? matching = .some element → good element = false) :
    (list.eraseP matching).any good = true := by
  induction list with
  | nil => cases some
  | cons first rest inductionHypothesis =>
      rw [List.any_cons, Bool.or_eq_true] at some
      by_cases found : matching first = true
      · rw [List.eraseP_cons_of_pos found]
        have bad := kept first (List.find?_cons_of_pos found)
        exact some.resolve_left (by simp [bad])
      · rw [List.eraseP_cons_of_neg found, List.any_cons, Bool.or_eq_true]
        refine some.imp_right fun inRest => inductionHypothesis inRest ?_
        intro element known
        exact kept element ((List.find?_cons_of_neg found).trans known)

theorem hasTransformFunction_of_change
    (changed : edit.change context newId document = .ok (written, receipt))
    (known : document.hasTransformFunction name = true) (kept : ¬ edit.LosesFunction document name) :
    written.hasTransformFunction name = true := by
  obtain rfl := eq_outcome_of_change changed
  cases edit with
  | createFunction payload =>
      unfold PipelineDocument.hasTransformFunction at known ⊢
      rw [outcome, List.any_append, known, Bool.true_or]
  | updateFunction id payload =>
      apply any_replaceFirst known
      intro record found sameName
      simp only [LosesFunction, ne_eq, not_and, Classical.not_not] at kept
      have renamed := kept ⟨record, found, by simpa using sameName⟩
      simpa using renamed
  | deleteFunction id =>
      apply any_eraseP known
      intro record found
      by_cases sameName : record.name = name
      · exact absurd ⟨record, found, sameName⟩ kept
      · simpa using sameName
  | deleteSource id mode =>
      cases mode with
      | orphan => exact known
      | cascade => exact known
  | _ => exact known

end Edit

end Checks

end PipelineRegistry
