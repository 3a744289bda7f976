import PipelineRegistry.Proofs.Edit

/-!
# Checks and rejections

What the checks of fields demand, and the errors that checks and changes fail with. A check fails
with a violation. A change fails with a violation too, or because something is not found; nothing
else of what can go wrong comes from them.
-/

namespace PipelineRegistry

open Registry

section Rejections

variable {α β : Type} {document : PipelineDocument} {error : RegistryError}

/-! ## Steps that may fail -/

theorem Except.bind_eq_ok_iff
    {ε : Type} {first : Except ε α} {next : α → Except ε β} {value : β} :
    first >>= next = .ok value ↔ ∃ middle, first = .ok middle ∧ next middle = .ok value := by
  cases first with
  | error failure =>
      constructor
      · intro impossible
        cases impossible
      · rintro ⟨_, impossible, -⟩
        cases impossible
  | ok middle =>
      constructor
      · intro continued
        exact ⟨middle, rfl, continued⟩
      · rintro ⟨_, same, continued⟩
        cases same
        exact continued

theorem Except.check_bind_eq_ok_iff
    {ε : Type} {check : Except ε Unit} {next : Unit → Except ε β} {value : β} :
    check >>= next = .ok value ↔ check = .ok () ∧ next () = .ok value := by
  rw [Except.bind_eq_ok_iff]
  constructor
  · rintro ⟨passed, checked, continued⟩
    exact ⟨checked, continued⟩
  · rintro ⟨checked, continued⟩
    exact ⟨(), checked, continued⟩

theorem Except.bind_eq_error_iff
    {ε : Type} {first : Except ε α} {next : α → Except ε β} {failure : ε} :
    first >>= next = .error failure ↔
      first = .error failure ∨ ∃ middle, first = .ok middle ∧ next middle = .error failure := by
  cases first with
  | error other =>
      constructor
      · intro failed
        cases failed
        exact Or.inl rfl
      · rintro (failed | ⟨_, impossible, _⟩)
        · cases failed
          rfl
        · cases impossible
  | ok middle =>
      constructor
      · intro continued
        exact Or.inr ⟨middle, rfl, continued⟩
      · rintro (impossible | ⟨_, same, continued⟩)
        · cases impossible
        · cases same
          exact continued

/-! ## What checks demand -/

/-- A text holds more than blanks. -/
def Filled (text : String) : Prop :=
  Text.isBlankText text = false

theorem require_eq_ok_iff {name value : String} : require name value = .ok () ↔ Filled value := by
  unfold require Filled
  cases Text.isBlankText value with
  | true => simp
  | false => simp

theorem checkSkipHeaders_eq_ok_iff {skipHeaders : Option Int} :
    checkSkipHeaders skipHeaders = .ok () ↔ ∃ count, skipHeaders = some count ∧ 0 ≤ count := by
  cases skipHeaders with
  | none => simp [checkSkipHeaders]
  | some count =>
      by_cases negative : count < 0
      · have below : ¬ 0 ≤ count := by omega
        simp [checkSkipHeaders, negative, below]
      · have above : 0 ≤ count := by omega
        simp [checkSkipHeaders, negative, above]

/-- What a source must satisfy beside its name, path and table, given its scheme. -/
def SchemeDemands (scheme : Scheme) (regex : String) (skipHeaders : Option Int) : Prop :=
  (scheme ≠ .api → Filled regex) ∧
    (scheme = .api ∨ scheme = .xlsx → ∃ count, skipHeaders = some count ∧ 0 ≤ count)

theorem checkSource_eq_ok_iff {source : ExtractSource} :
    checkSource source = .ok () ↔
      Filled source.name ∧ Filled source.path ∧
        (∃ scheme, source.scheme = some scheme ∧
          SchemeDemands scheme source.regex source.skipHeaders) ∧
        Filled source.tablename := by
  unfold checkSource
  rw [Except.check_bind_eq_ok_iff, Except.check_bind_eq_ok_iff, require_eq_ok_iff,
    require_eq_ok_iff]
  cases source.scheme with
  | none =>
      have rejected : (throw (.invalid (.missingField "scheme")) : Except RegistryError Unit) ≠
          .ok () := by
        intro impossible
        cases impossible
      simp [rejected]
  | some scheme =>
      unfold SchemeDemands
      by_cases isApi : scheme = .api
      · simp [isApi, Except.check_bind_eq_ok_iff, require_eq_ok_iff, checkSkipHeaders_eq_ok_iff]
      · by_cases isXlsx : scheme = .xlsx
        · simp [isXlsx, Except.check_bind_eq_ok_iff, require_eq_ok_iff,
            checkSkipHeaders_eq_ok_iff, and_assoc]
        · simp [isApi, isXlsx, Except.check_bind_eq_ok_iff, require_eq_ok_iff]

theorem checkNewRule_eq_ok_iff {rule : ExtractRule} :
    checkNewRule rule = .ok () ↔
      Filled rule.extractSourceId ∧ Filled rule.columnName ∧ Filled rule.columnPath ∧
        Filled rule.columnType := by
  simp only [checkNewRule, Except.check_bind_eq_ok_iff, require_eq_ok_iff]

theorem checkReplacingRule_eq_ok_iff {rule : ExtractRule} :
    checkReplacingRule rule = .ok () ↔ Filled rule.columnName ∧ Filled rule.columnPath := by
  simp only [checkReplacingRule, Except.check_bind_eq_ok_iff, require_eq_ok_iff]

theorem checkNewExtension_eq_ok_iff {extension : Extension} :
    checkNewExtension extension = .ok () ↔
      Filled extension.extractSourceId ∧ Filled extension.name ∧ Filled extension.path := by
  simp only [checkNewExtension, Except.check_bind_eq_ok_iff, require_eq_ok_iff]

theorem checkReplacingExtension_eq_ok_iff {extension : Extension} :
    checkReplacingExtension extension = .ok () ↔ Filled extension.name ∧ Filled extension.path := by
  simp only [checkReplacingExtension, Except.check_bind_eq_ok_iff, require_eq_ok_iff]

theorem checkFunction_eq_ok_iff {function : TransformFunction} :
    checkFunction function = .ok () ↔ Filled function.name ∧ Filled function.source := by
  simp only [checkFunction, Except.check_bind_eq_ok_iff, require_eq_ok_iff]

/-! ## How checks fail -/

/-- A check fails with violations only. -/
def OnlyViolations (check : Except RegistryError Unit) : Prop :=
  ∀ error, check = .error error → ∃ violation, error = .invalid violation

namespace OnlyViolations

variable {check : Except RegistryError Unit}

theorem ok : OnlyViolations (.ok ()) := by
  intro error impossible
  cases impossible

theorem violation (violation : Violation) : OnlyViolations (.error (.invalid violation)) := by
  intro error failed
  cases failed
  exact ⟨violation, rfl⟩

theorem bind {next : Unit → Except RegistryError Unit}
    (first : OnlyViolations check) (second : OnlyViolations (next ())) :
    OnlyViolations (check >>= next) := by
  intro error failed
  rcases Except.bind_eq_error_iff.mp failed with failed | ⟨passed, -, failed⟩
  · exact first error failed
  · exact second error failed

theorem require (name value : String) : OnlyViolations (Registry.require name value) := by
  unfold Registry.require
  split
  · exact violation _
  · exact ok

theorem checkSkipHeaders (skipHeaders : Option Int) :
    OnlyViolations (Registry.checkSkipHeaders skipHeaders) := by
  cases skipHeaders with
  | none => exact violation _
  | some count =>
      unfold Registry.checkSkipHeaders
      simp only
      split
      · exact violation _
      · exact ok

theorem checkSource (source : ExtractSource) : OnlyViolations (Registry.checkSource source) := by
  have table := require "tablename" source.tablename
  have regex := require "regex" source.regex
  have headers := checkSkipHeaders source.skipHeaders
  unfold Registry.checkSource
  apply (require _ _).bind
  apply (require _ _).bind
  split
  · exact violation _
  · simp only
    split
    · apply regex.bind
      split
      · exact headers.bind table
      · exact table
    · split
      · exact headers.bind table
      · exact table

end OnlyViolations

theorem Edit.onlyViolations_check (edit : Edit) : OnlyViolations edit.check := by
  cases edit with
  | createSource source => exact .checkSource source
  | updateSource id source => exact .checkSource source
  | createRule rule =>
      exact (OnlyViolations.require _ _).bind <| (OnlyViolations.require _ _).bind <|
        (OnlyViolations.require _ _).bind (.require _ _)
  | createExtension extension =>
      exact (OnlyViolations.require _ _).bind <| (OnlyViolations.require _ _).bind (.require _ _)
  | updateRule _ _ | updateExtension _ _ | createFunction _ | updateFunction _ _ =>
      exact (OnlyViolations.require _ _).bind (.require _ _)
  | deleteSource _ _ | deleteRule _ | deleteExtension _ | deleteFunction _ =>
      exact .ok

/-! ## How changes fail -/

/-- A change rejects a document because of what it holds or because of what it
does not hold. -/
inductive RegistryError.IsRejection : RegistryError → Prop
  | invalid (violation : Violation) : IsRejection (.invalid violation)
  | notFound (kind : EntityKind) (id : String) : IsRejection (.notFound kind id)

theorem Change.reporting_eq_error_iff {change : Change α} {receipt : α → Receipt} :
    change.reporting receipt document = .error error ↔ change document = .error error := by
  unfold reporting
  cases change document with
  | error failure => simp [Except.map]
  | ok result => simp [Except.map]

theorem isRejection_of_found
    {kind : EntityKind} {id : String} {found? : Option α}
    (missing : found kind id found? = .error error) :
    error.IsRejection := by
  cases found? with
  | none =>
      cases missing
      exact .notFound kind id
  | some entity => cases missing

theorem onlyViolations_checkRule
    (enforces : Bool) (document : PipelineDocument) (sourceId : String) (rule : ExtractRule) :
    OnlyViolations (checkRule enforces document sourceId rule) := by
  unfold checkRule
  split
  · exact .violation _
  · split
    · exact .violation _
    · exact .ok

theorem isRejection_of_checkRule
    {enforces : Bool} {sourceId : String} {rule : ExtractRule}
    (failed : checkRule enforces document sourceId rule = .error error) :
    error.IsRejection := by
  obtain ⟨violation, rfl⟩ := onlyViolations_checkRule enforces document sourceId rule error failed
  exact .invalid violation

/-- Every change fails by rejecting the document. -/
theorem Edit.isRejection_of_change
    {context : Context} {newId : String} {edit : Edit}
    (failed : edit.change context newId document = .error error) :
    error.IsRejection := by
  cases edit
  all_goals simp only [change, Change.reporting_eq_error_iff] at failed
  case createSource source =>
    unfold addSource at failed
    split at failed
    · cases failed
      exact .invalid _
    · cases failed
  case updateSource id source =>
    unfold replaceSource at failed
    split at failed
    · cases failed
      exact .notFound _ _
    · split at failed
      · cases failed
        exact .invalid _
      · cases failed
  case deleteSource id mode =>
    unfold removeSource at failed
    split at failed
    · cases failed
      exact .notFound _ _
    · cases mode <;> cases failed
  case createRule rule =>
    rcases Except.bind_eq_error_iff.mp failed with failed | ⟨passed, -, impossible⟩
    · exact isRejection_of_checkRule failed
    · cases impossible
  case updateRule id rule =>
    rcases Except.bind_eq_error_iff.mp failed with failed | ⟨first, -, failed⟩
    · exact isRejection_of_found failed
    · rcases Except.bind_eq_error_iff.mp failed with failed | ⟨passed, -, impossible⟩
      · exact isRejection_of_checkRule failed
      · cases impossible
  case deleteRule id =>
    unfold removeRule at failed
    simp only at failed
    split at failed
    · cases failed
      exact .notFound _ _
    · cases failed
  case createExtension extension => cases failed
  case createFunction function => cases failed
  all_goals
    rcases Except.bind_eq_error_iff.mp failed with failed | ⟨first, -, impossible⟩
    · exact isRejection_of_found failed
    · cases impossible

end Rejections

end PipelineRegistry
