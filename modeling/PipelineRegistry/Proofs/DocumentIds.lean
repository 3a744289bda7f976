import PipelineRegistry.Proofs.Changes

/-!
# Ids and paths of a document

Only a new entity brings a new id into a document, and all other entities keep theirs. So if new
ids are fresh, then no two entities of a kind ever have the same id. Neither do two sources ever
have the same path: the check for a path that is taken leaves out the source that is replaced, which
is only one because ids are unique.
-/

namespace PipelineRegistry

open Registry

namespace PipelineDocument

/-- The ids of all entities of a document. -/
def ids (document : PipelineDocument) : List String :=
  document.extractSources.map (·.id) ++ document.extractRules.map (·.id) ++
    document.extensions.map (·.id) ++ document.transformFunctions.map (·.id)

/-- No two entities of a kind have the same id, and no two sources have the same
path. -/
structure Unique (document : PipelineDocument) : Prop where
  sourceIds : (document.extractSources.map (·.id)).Nodup
  sourcePaths : (document.extractSources.map (·.path)).Nodup
  ruleIds : (document.extractRules.map (·.id)).Nodup
  extensionIds : (document.extensions.map (·.id)).Nodup
  functionIds : (document.transformFunctions.map (·.id)).Nodup

theorem unique_empty : ({} : PipelineDocument).Unique := by
  constructor
  all_goals exact List.nodup_nil

end PipelineDocument

/-! ## Ids that are left and ids that are new -/

/-- Some old ids are left, or all of them and a new one. -/
def Succeeds (newId : String) (creates : Bool) (old new : List String) : Prop :=
  new.Sublist old ∨ creates = true ∧ new = old ++ [newId]

namespace Succeeds

variable {newId : String} {creates : Bool} {old new : List String}

theorem of_eq (same : new = old) : Succeeds newId creates old new :=
  Or.inl (same ▸ List.Sublist.refl old)

theorem mem_or_eq
    (succeeds : Succeeds newId creates old new) {id : String} (member : id ∈ new) :
    id ∈ old ∨ creates = true ∧ id = newId := by
  rcases succeeds with sublist | ⟨created, rfl⟩
  · exact Or.inl (sublist.subset member)
  · rcases List.mem_append.mp member with member | member
    · exact Or.inl member
    · exact Or.inr ⟨created, List.mem_singleton.mp member⟩

theorem nodup
    (succeeds : Succeeds newId creates old new) (unique : old.Nodup)
    (fresh : creates = true → newId ∉ old) :
    new.Nodup := by
  rcases succeeds with sublist | ⟨created, rfl⟩
  · exact unique.sublist sublist
  · rw [List.nodup_append]
    refine ⟨unique, by simp, ?_⟩
    intro id member other same
    rw [List.mem_singleton.mp same]
    rintro rfl
    exact fresh created member

end Succeeds

/-! ## Lists with unique ids -/

section Lists

variable {α : Type} {field : α → String} {list : List α}

theorem eraseP_eq_filter_of_nodup
    (unique : (list.map field).Nodup) (id : String) :
    list.eraseP (field · == id) = list.filter fun element => field element ≠ id := by
  induction list with
  | nil => rfl
  | cons first rest inductionHypothesis =>
      rw [List.map_cons, List.nodup_cons] at unique
      by_cases same : field first = id
      · have others : rest.filter (fun element => field element ≠ id) = rest := by
          apply List.filter_eq_self.mpr
          intro element member
          have differs : field element ≠ id := by
            intro also
            apply unique.1
            rw [same, ← also]
            exact List.mem_map_of_mem member
          simpa using differs
        rw [List.eraseP_cons_of_pos (by simpa using same), List.filter_cons_of_neg (by simpa using same),
          others]
      · rw [List.eraseP_cons_of_neg (by simpa using same), List.filter_cons_of_pos (by simpa using same),
          inductionHypothesis unique.2]

theorem replaceFirst_eq_map_of_nodup
    (unique : (list.map field).Nodup) (id : String) (change : α → α) :
    replaceFirst (field · == id) change list =
      list.map fun element => if field element = id then change element else element := by
  induction list with
  | nil => rfl
  | cons first rest inductionHypothesis =>
      rw [List.map_cons, List.nodup_cons] at unique
      rw [replaceFirst, List.map_cons]
      by_cases same : field first = id
      · have others : ∀ element ∈ rest,
            (if field element = id then change element else element) = element := by
          intro element member
          apply if_neg
          intro also
          apply unique.1
          rw [same, ← also]
          exact List.mem_map_of_mem member
        rw [if_pos (by simpa using same), if_pos same, List.map_congr_left others, List.map_id']
      · rw [if_neg (by simpa using same), if_neg same, inductionHypothesis unique.2]

end Lists

/-! ## Ids of documents -/

/-- What a change does to the ids of each collection. -/
structure Descends (newId : String) (creates : Bool) (document written : PipelineDocument) :
    Prop where
  sources : Succeeds newId creates (document.extractSources.map (·.id))
    (written.extractSources.map (·.id))
  rules : Succeeds newId creates (document.extractRules.map (·.id))
    (written.extractRules.map (·.id))
  extensions : Succeeds newId creates (document.extensions.map (·.id))
    (written.extensions.map (·.id))
  functions : Succeeds newId creates (document.transformFunctions.map (·.id))
    (written.transformFunctions.map (·.id))

section Changes

variable {α β : Type} {document written : PipelineDocument} {newId id : String}
  {creates : Bool} {context : Context} {edit : Edit} {receipt : Receipt}

theorem map_replaceFirst
    (matching : α → Bool) (change : α → α) (field : α → β)
    (keeps : ∀ element, field (change element) = field element) (list : List α) :
    (replaceFirst matching change list).map field = list.map field := by
  induction list with
  | nil => rfl
  | cons first rest inductionHypothesis =>
      rw [replaceFirst]
      split
      · rw [List.map_cons, List.map_cons, keeps]
      · rw [List.map_cons, List.map_cons, inductionHypothesis]

theorem map_id_replaceSource (source : ExtractSource) (sources : List ExtractSourceRecord) :
    (sources.map fun stored =>
      if stored.id = id then { source.record with id := id } else stored).map (·.id) =
      sources.map (·.id) := by
  rw [List.map_map]
  apply List.map_congr_left
  intro stored _
  simp only [Function.comp_apply]
  split
  · exact Eq.symm ‹_›
  · rfl

theorem map_id_replaceRule (rule : ExtractRule) (rules : List ExtractRuleRecord) :
    (rules.map fun stored => if stored.id = id then ruleReplaced rule stored else stored).map
      (·.id) = rules.map (·.id) := by
  rw [List.map_map]
  apply List.map_congr_left
  intro stored _
  simp only [Function.comp_apply]
  split
  · rfl
  · rfl

theorem descends_withoutSource (mode : DeleteMode) :
    Descends newId creates document (withoutSource id mode document) := by
  cases mode with
  | orphan =>
      exact ⟨Or.inl (List.eraseP_sublist.map _), .of_eq rfl, .of_eq rfl, .of_eq rfl⟩
  | cascade =>
      exact ⟨Or.inl (List.eraseP_sublist.map _), Or.inl (List.filter_sublist.map _),
        Or.inl (List.filter_sublist.map _), .of_eq rfl⟩

/-- Every edit keeps the ids there are, and brings in none but the new one. -/
theorem Edit.descends
    (changed : edit.change context newId document = .ok (written, receipt)) :
    Descends newId edit.isCreation document written := by
  obtain rfl := Edit.eq_outcome_of_change changed
  cases edit with
  | createSource source =>
      exact ⟨Or.inr ⟨rfl, List.map_append⟩, .of_eq rfl, .of_eq rfl, .of_eq rfl⟩
  | updateSource id source =>
      exact ⟨.of_eq (map_id_replaceSource source _), .of_eq rfl, .of_eq rfl, .of_eq rfl⟩
  | deleteSource id mode =>
      exact descends_withoutSource mode
  | createRule rule =>
      exact ⟨.of_eq rfl, Or.inr ⟨rfl, List.map_append⟩, .of_eq rfl, .of_eq rfl⟩
  | updateRule id rule =>
      exact ⟨.of_eq rfl, .of_eq (map_id_replaceRule rule _), .of_eq rfl, .of_eq rfl⟩
  | deleteRule id =>
      exact ⟨.of_eq rfl, Or.inl (List.filter_sublist.map _), .of_eq rfl, .of_eq rfl⟩
  | createExtension extension =>
      exact ⟨.of_eq rfl, .of_eq rfl, Or.inr ⟨rfl, List.map_append⟩, .of_eq rfl⟩
  | updateExtension id extension =>
      refine ⟨.of_eq rfl, .of_eq rfl, .of_eq ?_, .of_eq rfl⟩
      apply map_replaceFirst
      intro stored
      rfl
  | deleteExtension id =>
      exact ⟨.of_eq rfl, .of_eq rfl, Or.inl (List.eraseP_sublist.map _), .of_eq rfl⟩
  | createFunction function =>
      exact ⟨.of_eq rfl, .of_eq rfl, .of_eq rfl, Or.inr ⟨rfl, List.map_append⟩⟩
  | updateFunction id function =>
      refine ⟨.of_eq rfl, .of_eq rfl, .of_eq rfl, .of_eq ?_⟩
      apply map_replaceFirst
      intro stored
      rfl
  | deleteFunction id =>
      exact ⟨.of_eq rfl, .of_eq rfl, .of_eq rfl, Or.inl (List.eraseP_sublist.map _)⟩

theorem Descends.mem_or_eq
    (descends : Descends newId creates document written) {id : String}
    (member : id ∈ written.ids) :
    id ∈ document.ids ∨ creates = true ∧ id = newId := by
  unfold PipelineDocument.ids at member ⊢
  simp only [List.mem_append] at member ⊢
  rcases member with ((member | member) | member) | member
  · rcases descends.sources.mem_or_eq member with old | new
    · exact Or.inl (Or.inl (Or.inl (Or.inl old)))
    · exact Or.inr new
  · rcases descends.rules.mem_or_eq member with old | new
    · exact Or.inl (Or.inl (Or.inl (Or.inr old)))
    · exact Or.inr new
  · rcases descends.extensions.mem_or_eq member with old | new
    · exact Or.inl (Or.inl (Or.inr old))
    · exact Or.inr new
  · rcases descends.functions.mem_or_eq member with old | new
    · exact Or.inl (Or.inr old)
    · exact Or.inr new

/-! ## Creations -/

theorem Edit.newId_mem
    (creates : edit.isCreation = true)
    (changed : edit.change context newId document = .ok (written, receipt)) :
    newId ∈ written.ids := by
  obtain rfl := Edit.eq_outcome_of_change changed
  unfold PipelineDocument.ids
  cases edit with
  | createSource source => simp [outcome]
  | createRule rule => simp [outcome]
  | createExtension extension => simp [outcome]
  | createFunction function => simp [outcome]
  | _ => cases creates

/-! ## Paths -/

theorem pathTaken_eq_false_iff {path : String} {except? : Option String} :
    document.pathTaken path except? = false ↔
      ∀ source ∈ document.extractSources, source.path = path → some source.id = except? := by
  unfold PipelineDocument.pathTaken
  rw [List.any_eq_false]
  constructor
  · intro free source member same
    have clashes := free source member
    simpa [same] using clashes
  · intro free source member clashes
    simp only [Bool.and_eq_true, beq_iff_eq, bne_iff_ne, ne_eq] at clashes
    exact clashes.2 (free source member clashes.1)

/-- A path that is not taken can be given to the only source with an id. -/
theorem nodup_paths_replaceSource
    {source : ExtractSource} {sources : List ExtractSourceRecord}
    (uniqueIds : (sources.map (·.id)).Nodup) (uniquePaths : (sources.map (·.path)).Nodup)
    (free : ∀ stored ∈ sources, stored.path = source.path → stored.id = id) :
    ((sources.map fun stored =>
      if stored.id = id then { source.record with id := id } else stored).map (·.path)).Nodup := by
  induction sources with
  | nil => exact List.nodup_nil
  | cons first rest inductionHypothesis =>
      rw [List.map_cons, List.nodup_cons] at uniqueIds uniquePaths
      rw [List.map_cons, List.map_cons, List.nodup_cons]
      constructor
      · intro member
        obtain ⟨_, replaced, same⟩ := List.mem_map.mp member
        obtain ⟨stored, inRest, rfl⟩ := List.mem_map.mp replaced
        have differentIds : stored.id ≠ first.id := by
          intro sameId
          exact uniqueIds.1 (List.mem_map.mpr ⟨stored, inRest, sameId⟩)
        by_cases isFirst : first.id = id
        · have isOther : stored.id ≠ id := isFirst ▸ differentIds
          rw [if_pos isFirst, if_neg isOther] at same
          exact isOther (free stored (List.mem_cons_of_mem _ inRest) same)
        · by_cases isStored : stored.id = id
          · rw [if_neg isFirst, if_pos isStored] at same
            exact isFirst (free first List.mem_cons_self same.symm)
          · rw [if_neg isFirst, if_neg isStored] at same
            exact uniquePaths.1 (List.mem_map.mpr ⟨stored, inRest, same⟩)
      · apply inductionHypothesis uniqueIds.2 uniquePaths.2
        intro stored member
        exact free stored (List.mem_cons_of_mem _ member)

/-- Every edit keeps the paths of sources apart. -/
theorem Edit.nodup_paths
    (unique : document.Unique)
    (changed : edit.change context newId document = .ok (written, receipt)) :
    (written.extractSources.map (·.path)).Nodup := by
  have fits := Edit.fits_of_change changed
  obtain rfl := Edit.eq_outcome_of_change changed
  cases edit with
  | createSource source =>
      simp only [outcome, List.map_append, List.nodup_append]
      refine ⟨unique.sourcePaths, by simp, ?_⟩
      intro path member other new same
      obtain ⟨stored, inSources, rfl⟩ := List.mem_map.mp member
      rw [List.map_singleton, List.mem_singleton] at new
      have impossible := pathTaken_eq_false_iff.mp fits stored inSources (same.trans new)
      cases impossible
  | updateSource id source =>
      apply nodup_paths_replaceSource unique.sourceIds unique.sourcePaths
      intro stored member same
      exact Option.some.inj (pathTaken_eq_false_iff.mp fits.2 stored member same)
  | deleteSource id mode =>
      cases mode with
      | orphan => exact unique.sourcePaths.sublist (List.eraseP_sublist.map _)
      | cascade => exact unique.sourcePaths.sublist (List.eraseP_sublist.map _)
  | _ => exact unique.sourcePaths

/-- Every edit keeps a document unique if its new id, when it uses one, is not
in the document. -/
theorem Edit.unique_of_change
    (unique : document.Unique) (fresh : edit.isCreation = true → newId ∉ document.ids)
    (changed : edit.change context newId document = .ok (written, receipt)) :
    written.Unique := by
  have descends := edit.descends changed
  have absent (creates : edit.isCreation = true) :
      newId ∉ document.extractSources.map (·.id) ∧
        newId ∉ document.extractRules.map (·.id) ∧
        newId ∉ document.extensions.map (·.id) ∧
        newId ∉ document.transformFunctions.map (·.id) := by
    have absent := fresh creates
    unfold PipelineDocument.ids at absent
    simp only [List.mem_append, not_or] at absent
    obtain ⟨⟨⟨sources, rules⟩, extensions⟩, functions⟩ := absent
    exact ⟨sources, rules, extensions, functions⟩
  exact {
    sourceIds := descends.sources.nodup unique.sourceIds fun creates => (absent creates).1
    sourcePaths := Edit.nodup_paths unique changed
    ruleIds := descends.rules.nodup unique.ruleIds fun creates => (absent creates).2.1
    extensionIds :=
      descends.extensions.nodup unique.extensionIds fun creates => (absent creates).2.2.1
    functionIds :=
      descends.functions.nodup unique.functionIds fun creates => (absent creates).2.2.2 }

end Changes

end PipelineRegistry
