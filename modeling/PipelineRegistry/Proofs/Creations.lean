import PipelineRegistry.Proofs.DocumentIds
import PipelineRegistry.Proofs.Linearization

/-!
# Creations

An edit that creates an entity answers with the new id and adds one record with this id to a
document. No other creation takes the record out again, so a document that is made by creations
holds the records of all of them.
-/

namespace PipelineRegistry

open Registry

/-! ## Receipts -/

section Receipts

variable {α : Type} {document written : PipelineDocument} {context : Context} {newId : String}
  {edit : Edit} {receipt : Receipt}

theorem Change.reporting_eq_ok_iff {change : Change α} {give : α → Receipt} :
    change.reporting give document = .ok (written, receipt) ↔
      ∃ output, change document = .ok (written, output) ∧ receipt = give output := by
  unfold reporting
  cases changed : change document with
  | error error => simp [Except.map]
  | ok result =>
      obtain ⟨given, output⟩ := result
      simp only [Except.map, Except.ok.injEq, Prod.mk.injEq]
      constructor
      · rintro ⟨rfl, rfl⟩
        exact ⟨output, ⟨rfl, rfl⟩, rfl⟩
      · rintro ⟨_, ⟨rfl, rfl⟩, rfl⟩
        exact ⟨rfl, rfl⟩

namespace Edit

/-- The id of the entity that an edit is about, if it is to be there already. -/
def target? : Edit → Option String
  | createSource _ | createRule _ | createExtension _ | createFunction _ => none
  | updateSource id _ | updateRule id _ | updateExtension id _ | updateFunction id _ => some id
  | deleteSource id _ | deleteRule id | deleteExtension id | deleteFunction id => some id

/-- An edit answers with the id of the entity that it is about. -/
theorem id_of_change
    (changed : edit.change context newId document = .ok (written, receipt)) :
    receipt.id = edit.target?.getD newId := by
  cases edit with
  | deleteSource id mode =>
      simp only [change, Change.reporting_eq_ok_iff, removeSource_eq_ok_iff] at changed
      obtain ⟨removed, ⟨known, -⟩, rfl⟩ := changed
      have same := List.find?_some known
      simpa [target?] using same
  | _ =>
      simp only [change, Change.reporting_eq_ok_iff] at changed
      obtain ⟨output, -, rfl⟩ := changed
      rfl

theorem id_of_creation
    (creates : edit.isCreation = true)
    (changed : edit.change context newId document = .ok (written, receipt)) :
    receipt.id = newId := by
  have answered := id_of_change changed
  cases edit with
  | createSource _ | createRule _ | createExtension _ | createFunction _ => exact answered
  | _ => cases creates

theorem length_notices_le
    (changed : edit.change context newId document = .ok (written, receipt)) :
    receipt.notices.length ≤ 2 := by
  cases edit
  all_goals
    simp only [change, Change.reporting_eq_ok_iff] at changed
    obtain ⟨output, -, rfl⟩ := changed
    simp

end Edit

end Receipts

/-! ## Records of creations -/

namespace Edit

/-- A document holds what an edit creates, under an id. -/
def Recorded (id : String) (document : PipelineDocument) : Edit → Prop
  | createSource source => { source.record with id := id } ∈ document.extractSources
  | createRule rule => { rule.record with id := id } ∈ document.extractRules
  | createExtension extension => { extension.record with id := id } ∈ document.extensions
  | createFunction function => { function.record with id := id } ∈ document.transformFunctions
  | _ => False

variable {document written : PipelineDocument} {context : Context} {id newId : String}
  {edit other : Edit} {receipt : Receipt}

theorem recorded_of_change
    (creates : edit.isCreation = true)
    (changed : edit.change context newId document = .ok (written, receipt)) :
    edit.Recorded newId written := by
  obtain rfl := eq_outcome_of_change changed
  cases edit with
  | createSource _ | createRule _ | createExtension _ | createFunction _ =>
      simp [Recorded, outcome]
  | _ => cases creates

/-- What has been created stays while others create. -/
theorem Recorded.of_creation
    (recorded : edit.Recorded id document) (creates : other.isCreation = true)
    (changed : other.change context newId document = .ok (written, receipt)) :
    edit.Recorded id written := by
  have kept : document.extractSources ⊆ written.extractSources ∧
      document.extractRules ⊆ written.extractRules ∧
      document.extensions ⊆ written.extensions ∧
      document.transformFunctions ⊆ written.transformFunctions := by
    obtain rfl := eq_outcome_of_change changed
    cases other with
    | createSource _ | createRule _ | createExtension _ | createFunction _ => simp [outcome]
    | _ => cases creates
  obtain ⟨sources, rules, extensions, functions⟩ := kept
  cases edit with
  | createSource source => exact sources recorded
  | createRule rule => exact rules recorded
  | createExtension extension => exact extensions recorded
  | createFunction function => exact functions recorded
  | _ => cases recorded

theorem length_ids_of_creation
    (creates : edit.isCreation = true)
    (changed : edit.change context newId document = .ok (written, receipt)) :
    written.ids.length = document.ids.length + 1 := by
  obtain rfl := eq_outcome_of_change changed
  unfold PipelineDocument.ids
  cases edit with
  | createSource _ | createRule _ | createExtension _ | createFunction _ =>
      simp only [outcome, List.length_append, List.length_map, List.length_singleton]
      omega
  | _ => cases creates

end Edit

/-! ## Orders of creations -/

section Folds

variable {start middle document : PipelineDocument} {turn : Turn} {order earlier later : List Turn}
  {edit : Edit} {id : String}

theorem Turn.apply_eq_ok_iff {written : PipelineDocument} :
    turn.apply document = .ok written ↔
      ∃ receipt, turn.edit.change turn.context turn.newId document = .ok (written, receipt) := by
  unfold Turn.apply
  cases turn.edit.change turn.context turn.newId document with
  | error error => simp [Except.map]
  | ok result =>
      obtain ⟨given, receipt⟩ := result
      simp [Except.map]

theorem fold_cons_eq_ok_iff :
    fold start (turn :: order) = .ok document ↔
      ∃ middle receipt,
        turn.edit.change turn.context turn.newId start = .ok (middle, receipt) ∧
          fold middle order = .ok document := by
  unfold fold
  rw [List.foldlM_cons, Except.bind_eq_ok_iff]
  simp only [Turn.apply_eq_ok_iff, exists_and_right]

theorem fold_of_append
    (folded : fold start earlier = .ok middle)
    (whole : fold start (earlier ++ later) = .ok document) :
    fold middle later = .ok document := by
  unfold fold at folded whole ⊢
  rw [List.foldlM_append, folded] at whole
  exact whole

/-- What has been created stays in the course of further creations. -/
theorem Edit.Recorded.of_fold
    (recorded : edit.Recorded id start) (folded : fold start order = .ok document)
    (creations : ∀ turn ∈ order, turn.edit.isCreation = true) :
    edit.Recorded id document := by
  induction order generalizing start with
  | nil =>
      cases folded
      exact recorded
  | cons turn rest inductionHypothesis =>
      obtain ⟨middle, receipt, changed, folded⟩ := fold_cons_eq_ok_iff.mp folded
      have stays := recorded.of_creation (creations turn List.mem_cons_self) changed
      apply inductionHypothesis stays folded
      intro later member
      exact creations later (List.mem_cons_of_mem _ member)

theorem length_ids_of_fold
    (folded : fold start order = .ok document)
    (creations : ∀ turn ∈ order, turn.edit.isCreation = true) :
    document.ids.length = start.ids.length + order.length := by
  induction order generalizing start with
  | nil =>
      cases folded
      rfl
  | cons turn rest inductionHypothesis =>
      obtain ⟨middle, receipt, changed, folded⟩ := fold_cons_eq_ok_iff.mp folded
      have grown := Edit.length_ids_of_creation (creations turn List.mem_cons_self) changed
      have rested := inductionHypothesis folded fun later member =>
        creations later (List.mem_cons_of_mem _ member)
      rw [rested, grown, List.length_cons]
      omega

/-! ## Sources with paths of their own -/

/-- A path comes into a document only with a source that is created. -/
theorem path_of_fold
    (folded : fold start order = .ok document)
    (sources : ∀ turn ∈ order, ∃ source, turn.edit = .createSource source)
    {record : ExtractSourceRecord} (member : record ∈ document.extractSources) :
    record ∈ start.extractSources ∨
      ∃ turn ∈ order, ∃ source, turn.edit = .createSource source ∧ source.path = record.path := by
  induction order generalizing start with
  | nil =>
      cases folded
      exact Or.inl member
  | cons turn rest inductionHypothesis =>
      obtain ⟨middle, receipt, changed, folded⟩ := fold_cons_eq_ok_iff.mp folded
      obtain ⟨source, created⟩ := sources turn List.mem_cons_self
      have restSources : ∀ turn ∈ rest, ∃ source, turn.edit = .createSource source :=
        fun later member => sources later (List.mem_cons_of_mem _ member)
      rcases inductionHypothesis folded restSources with inMiddle | ⟨later, inRest, found⟩
      · rw [created] at changed
        obtain rfl := Edit.eq_outcome_of_change changed
        rcases List.mem_append.mp inMiddle with old | new
        · exact Or.inl old
        · rw [List.mem_singleton.mp new]
          exact Or.inr ⟨turn, List.mem_cons_self, source, created, rfl⟩
      · exact Or.inr ⟨later, List.mem_cons_of_mem _ inRest, found⟩

end Folds

end PipelineRegistry
