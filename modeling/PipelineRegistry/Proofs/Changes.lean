import PipelineRegistry.Proofs.Edit

/-!
# What changes make of a document

One law for each change: when it succeeds, and the document it gives then. Together they say what an
edit demands of a document and what it makes of it, so that nothing else about edits needs to look
at how they are done.
-/

namespace PipelineRegistry

open Registry

variable {α : Type} {document written : PipelineDocument} {id : String}

theorem Change.exists_reporting_eq_ok_iff {change : Change α} {receipt : α → Receipt} :
    (∃ reported, change.reporting receipt document = .ok (written, reported)) ↔
      ∃ output, change document = .ok (written, output) := by
  unfold reporting
  cases changed : change document with
  | error error => simp [Except.map]
  | ok result =>
      obtain ⟨given, output⟩ := result
      simp [Except.map]

namespace Registry

/-! ## Sources -/

theorem addSource_eq_ok_iff {source : ExtractSource} {output : Unit} :
    addSource id source document = .ok (written, output) ↔
      document.pathTaken source.path none = false ∧
      written = { document with
        extractSources := document.extractSources ++ [{ source.record with id := id }] } := by
  unfold addSource
  by_cases taken : document.pathTaken source.path none = true
  · simp [taken]
  · rw [if_neg taken]
    simp only [Bool.not_eq_true] at taken
    simp [taken, eq_comm]

theorem replaceSource_eq_ok_iff {source : ExtractSource} {output : Unit} :
    replaceSource id source document = .ok (written, output) ↔
      (∃ known, document.findSource? id = some known) ∧
      document.pathTaken source.path (some id) = false ∧
      written = { document with
        extractSources := document.extractSources.map fun stored =>
          if stored.id = id then { source.record with id := id } else stored } := by
  unfold replaceSource
  cases known : document.findSource? id with
  | none => simp
  | some stored =>
      by_cases taken : document.pathTaken source.path (some id) = true
      · simp [taken]
      · rw [if_neg (by simp), if_neg taken]
        simp only [Bool.not_eq_true] at taken
        simp [taken, eq_comm]

/-- What is left of a document without a source. -/
def withoutSource (id : String) (mode : DeleteMode) (document : PipelineDocument) :
    PipelineDocument :=
  let remaining :=
    { document with extractSources := document.extractSources.eraseP (·.id == id) }
  match mode with
  | .orphan => remaining
  | .cascade => removeBound id remaining

theorem removeSource_eq_ok_iff {mode : DeleteMode} {removed : ExtractSourceRecord} :
    removeSource id mode document = .ok (written, removed) ↔
      document.findSource? id = some removed ∧ written = withoutSource id mode document := by
  unfold removeSource withoutSource
  cases known : document.findSource? id with
  | none => simp
  | some stored =>
      cases mode with
      | orphan => simp [eq_comm, and_comm]
      | cascade => simp [eq_comm, and_comm]

/-! ## Rules -/

theorem addRule_eq_ok_iff {enforces : Bool} {rule : ExtractRule} {output : Unit} :
    addRule enforces id rule document = .ok (written, output) ↔
      checkRule enforces document rule.extractSourceId rule = .ok () ∧
      written = { document with
        extractRules := document.extractRules ++ [{ rule.record with id := id }] } := by
  unfold addRule
  cases checked : checkRule enforces document rule.extractSourceId rule with
  | error error => simp [bind, Except.bind]
  | ok passed => simp [bind, Except.bind, pure, Except.pure, eq_comm]

theorem replaceRule_eq_ok_iff {enforces : Bool} {rule : ExtractRule} {output : Unit} :
    replaceRule enforces id rule document = .ok (written, output) ↔
      (∃ first,
        document.extractRules.find? (·.id == id) = some first ∧
          checkRule enforces document first.extractSourceId rule = .ok ()) ∧
      written = { document with
        extractRules := document.extractRules.map fun stored =>
          if stored.id = id then ruleReplaced rule stored else stored } := by
  unfold replaceRule
  cases known : document.extractRules.find? (·.id == id) with
  | none => simp [found, bind, Except.bind]
  | some first =>
      cases checked : checkRule enforces document first.extractSourceId rule with
      | error error => simp [found, bind, Except.bind, checked]
      | ok passed => simp [found, bind, Except.bind, checked, pure, Except.pure, eq_comm]

theorem removeRule_eq_ok_iff {output : Unit} :
    removeRule id document = .ok (written, output) ↔
      (∃ stored ∈ document.extractRules, stored.id = id) ∧
      written = { document with
        extractRules := document.extractRules.filter (·.id != id) } := by
  unfold removeRule
  by_cases same :
      (document.extractRules.filter (·.id != id)).length = document.extractRules.length
  · have none : ¬ ∃ stored ∈ document.extractRules, stored.id = id := by
      rintro ⟨stored, member, sameId⟩
      have kept := List.length_filter_eq_length_iff.mp same stored member
      simp [sameId] at kept
    simp only [same, ↓reduceIte, reduceCtorEq, none, false_and]
  · have some : ∃ stored ∈ document.extractRules, stored.id = id := by
      apply Classical.byContradiction
      intro none
      apply same
      apply List.length_filter_eq_length_iff.mpr
      intro stored member
      simp only [bne_iff_ne, ne_eq]
      intro sameId
      exact none ⟨stored, member, sameId⟩
    simp only [same, ↓reduceIte, some, true_and, Except.ok.injEq, Prod.mk.injEq, and_true]
    exact eq_comm

/-! ## Extensions -/

theorem addExtension_eq_ok_iff {extension : Extension} {output : Unit} :
    addExtension id extension document = .ok (written, output) ↔
      written = { document with
        extensions := document.extensions ++ [{ extension.record with id := id }] } := by
  simp [addExtension, eq_comm]

theorem replaceExtension_eq_ok_iff {extension : Extension} {output : Unit} :
    replaceExtension id extension document = .ok (written, output) ↔
      (∃ known, document.extensions.find? (·.id == id) = some known) ∧
      written = { document with
        extensions := replaceFirst (·.id == id)
          (fun stored => { stored with name := extension.name, path := extension.path })
          document.extensions } := by
  unfold replaceExtension
  cases known : document.extensions.find? (·.id == id) with
  | none => simp [found, bind, Except.bind]
  | some stored => simp [found, bind, Except.bind, pure, Except.pure, eq_comm]

theorem removeExtension_eq_ok_iff {output : Unit} :
    removeExtension id document = .ok (written, output) ↔
      (∃ known, document.extensions.find? (·.id == id) = some known) ∧
      written = { document with extensions := document.extensions.eraseP (·.id == id) } := by
  unfold removeExtension
  cases known : document.extensions.find? (·.id == id) with
  | none => simp [found, bind, Except.bind]
  | some stored => simp [found, bind, Except.bind, pure, Except.pure, eq_comm]

/-! ## Transform functions -/

theorem addFunction_eq_ok_iff {function : TransformFunction} {output : Unit} :
    addFunction id function document = .ok (written, output) ↔
      written = { document with
        transformFunctions :=
          document.transformFunctions ++ [{ function.record with id := id }] } := by
  simp [addFunction, eq_comm]

theorem replaceFunction_eq_ok_iff {function : TransformFunction} {output : Unit} :
    replaceFunction id function document = .ok (written, output) ↔
      (∃ known, document.transformFunctions.find? (·.id == id) = some known) ∧
      written = { document with
        transformFunctions := replaceFirst (·.id == id)
          (fun stored => { stored with name := function.name, source := function.source })
          document.transformFunctions } := by
  unfold replaceFunction
  cases known : document.transformFunctions.find? (·.id == id) with
  | none => simp [found, bind, Except.bind]
  | some stored => simp [found, bind, Except.bind, pure, Except.pure, eq_comm]

theorem removeFunction_eq_ok_iff {output : Unit} :
    removeFunction id document = .ok (written, output) ↔
      (∃ known, document.transformFunctions.find? (·.id == id) = some known) ∧
      written = { document with
        transformFunctions := document.transformFunctions.eraseP (·.id == id) } := by
  unfold removeFunction
  cases known : document.transformFunctions.find? (·.id == id) with
  | none => simp [found, bind, Except.bind]
  | some stored => simp [found, bind, Except.bind, pure, Except.pure, eq_comm]

end Registry

/-! ## Edits -/

namespace Edit

/-- What an edit demands of the document that it changes. -/
def Fits (context : Context) (document : PipelineDocument) : Edit → Prop
  | createSource source => document.pathTaken source.path none = false
  | updateSource id source =>
      (∃ known, document.findSource? id = some known) ∧
        document.pathTaken source.path (some id) = false
  | deleteSource id _ => ∃ removed, document.findSource? id = some removed
  | createRule rule =>
      checkRule context.settings.enforceFunctionReferences document rule.extractSourceId rule =
        .ok ()
  | updateRule id rule =>
      ∃ first,
        document.extractRules.find? (·.id == id) = some first ∧
          checkRule context.settings.enforceFunctionReferences document first.extractSourceId
            rule = .ok ()
  | deleteRule id => ∃ stored ∈ document.extractRules, stored.id = id
  | updateExtension id _ | deleteExtension id =>
      ∃ known, document.extensions.find? (·.id == id) = some known
  | updateFunction id _ | deleteFunction id =>
      ∃ known, document.transformFunctions.find? (·.id == id) = some known
  | createExtension _ | createFunction _ => True

/-- What an edit makes of a document that it fits. -/
def outcome (newId : String) (document : PipelineDocument) : Edit → PipelineDocument
  | createSource source =>
      { document with
        extractSources := document.extractSources ++ [{ source.record with id := newId }] }
  | updateSource id source =>
      { document with
        extractSources := document.extractSources.map fun stored =>
          if stored.id = id then { source.record with id := id } else stored }
  | deleteSource id mode => withoutSource id mode document
  | createRule rule =>
      { document with
        extractRules := document.extractRules ++ [{ rule.record with id := newId }] }
  | updateRule id rule =>
      { document with
        extractRules := document.extractRules.map fun stored =>
          if stored.id = id then ruleReplaced rule stored else stored }
  | deleteRule id =>
      { document with extractRules := document.extractRules.filter (·.id != id) }
  | createExtension extension =>
      { document with
        extensions := document.extensions ++ [{ extension.record with id := newId }] }
  | updateExtension id extension =>
      { document with
        extensions := replaceFirst (·.id == id)
          (fun stored => { stored with name := extension.name, path := extension.path })
          document.extensions }
  | deleteExtension id =>
      { document with extensions := document.extensions.eraseP (·.id == id) }
  | createFunction function =>
      { document with
        transformFunctions :=
          document.transformFunctions ++ [{ function.record with id := newId }] }
  | updateFunction id function =>
      { document with
        transformFunctions := replaceFirst (·.id == id)
          (fun stored => { stored with name := function.name, source := function.source })
          document.transformFunctions }
  | deleteFunction id =>
      { document with
        transformFunctions := document.transformFunctions.eraseP (·.id == id) }

variable {context : Context} {newId : String} {edit : Edit} {receipt : Receipt}

/-- An edit changes the documents that it fits. -/
theorem exists_change_eq_ok_iff :
    (∃ receipt, edit.change context newId document = .ok (written, receipt)) ↔
      edit.Fits context document ∧ written = edit.outcome newId document := by
  cases edit with
  | createSource source =>
      simp only [change, Change.exists_reporting_eq_ok_iff, addSource_eq_ok_iff, exists_const,
        Fits, outcome]
  | updateSource id source =>
      simp only [change, Change.exists_reporting_eq_ok_iff, replaceSource_eq_ok_iff, exists_const,
        Fits, outcome, and_assoc]
  | deleteSource id mode =>
      simp only [change, Change.exists_reporting_eq_ok_iff, removeSource_eq_ok_iff,
        exists_and_right, Fits, outcome]
  | createRule rule =>
      simp only [change, Change.exists_reporting_eq_ok_iff, addRule_eq_ok_iff, exists_const,
        Fits, outcome]
  | updateRule id rule =>
      simp only [change, Change.exists_reporting_eq_ok_iff, replaceRule_eq_ok_iff, exists_const,
        Fits, outcome]
  | deleteRule id =>
      simp only [change, Change.exists_reporting_eq_ok_iff, removeRule_eq_ok_iff, exists_const,
        Fits, outcome]
  | createExtension extension =>
      simp only [change, Change.exists_reporting_eq_ok_iff, addExtension_eq_ok_iff, exists_const,
        Fits, outcome, true_and]
  | updateExtension id extension =>
      simp only [change, Change.exists_reporting_eq_ok_iff, replaceExtension_eq_ok_iff,
        exists_const, Fits, outcome]
  | deleteExtension id =>
      simp only [change, Change.exists_reporting_eq_ok_iff, removeExtension_eq_ok_iff,
        exists_const, Fits, outcome]
  | createFunction function =>
      simp only [change, Change.exists_reporting_eq_ok_iff, addFunction_eq_ok_iff, exists_const,
        Fits, outcome, true_and]
  | updateFunction id function =>
      simp only [change, Change.exists_reporting_eq_ok_iff, replaceFunction_eq_ok_iff,
        exists_const, Fits, outcome]
  | deleteFunction id =>
      simp only [change, Change.exists_reporting_eq_ok_iff, removeFunction_eq_ok_iff,
        exists_const, Fits, outcome]

theorem fits_of_change
    (changed : edit.change context newId document = .ok (written, receipt)) :
    edit.Fits context document :=
  (exists_change_eq_ok_iff.mp ⟨receipt, changed⟩).1

theorem eq_outcome_of_change
    (changed : edit.change context newId document = .ok (written, receipt)) :
    written = edit.outcome newId document :=
  (exists_change_eq_ok_iff.mp ⟨receipt, changed⟩).2

theorem change_of_fits (newId : String) (fits : edit.Fits context document) :
    ∃ receipt, edit.change context newId document = .ok (edit.outcome newId document, receipt) :=
  exists_change_eq_ok_iff.mpr ⟨fits, rfl⟩

theorem not_fits_of_change_error
    {error : RegistryError} (rejected : edit.change context newId document = .error error) :
    ¬ edit.Fits context document := by
  intro fits
  obtain ⟨receipt, changed⟩ := change_of_fits newId fits
  rw [rejected] at changed
  cases changed

end Edit

end PipelineRegistry
