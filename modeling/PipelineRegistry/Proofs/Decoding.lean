import PipelineRegistry.Entity.Json
import PipelineRegistry.Proofs.Rejections
import PipelineRegistry.Proofs.SchemeText

/-!
# Payloads that were decoded

A record that is decoded starts from its defaults and gets one field after the other, so what the
defaults have and every field keeps is true of all records that are decoded. In this way the scheme
of a source that was decoded has been named by a text.
-/

namespace PipelineRegistry

open Json (Slot Schema Decoder)

/-! ## What every field keeps -/

namespace Json

variable {σ α : Type} {invariant : σ → Prop}

theorem inside_eq_ok_iff {step : Step} {result : Except Problem α} {value : α} :
    inside step result = .ok value ↔ result = .ok value := by
  unfold inside
  cases result with
  | error problem => simp [Except.mapError]
  | ok other => simp [Except.mapError]

/-- Whatever a slot puts into a record, the record keeps a property. -/
def Slot.Keeps (invariant : σ → Prop) (slot : Slot σ) : Prop :=
  ∀ json put, slot.fill json = .ok put → ∀ record, invariant record → invariant (put record)

theorem Slot.keeps_optional
    {name : String} {decode : Decoder α} {put : α → σ → σ}
    (kept : ∀ json value, decode json = .ok value →
      ∀ record, invariant record → invariant (put value record)) :
    (Slot.optional name decode put).Keeps invariant := by
  intro json given filled record holds
  unfold Slot.optional at filled
  simp only at filled
  cases decoded : decode json with
  | error problem =>
      rw [decoded] at filled
      cases filled
  | ok value =>
      rw [decoded] at filled
      cases filled
      exact kept json value decoded record holds

namespace Schema

theorem build_invariant
    {value? : String → Option Json} {slots : List (Slot σ)} {record result : σ}
    (kept : ∀ slot ∈ slots, slot.Keeps invariant) (holds : invariant record)
    (built : build value? slots record = .ok result) :
    invariant result := by
  induction slots generalizing record with
  | nil =>
      cases built
      exact holds
  | cons slot rest inductionHypothesis =>
      have keptRest : ∀ slot ∈ rest, slot.Keeps invariant :=
        fun other member => kept other (List.mem_cons_of_mem _ member)
      rw [build] at built
      split at built
      · obtain ⟨put, filled, built⟩ := Except.bind_eq_ok_iff.mp built
        exact inductionHypothesis keptRest
          (kept slot List.mem_cons_self _ put filled record holds) built
      · split at built
        · cases built
        · exact inductionHypothesis keptRest holds built

theorem fillItems_invariant
    {schema : Schema σ} {count index : Nat} {ended : Bool} {slots : List (Slot σ)}
    {items surplus : List Json} {record result : σ}
    (kept : ∀ slot ∈ slots, slot.Keeps invariant) (holds : invariant record)
    (filled : fillItems schema count ended index slots items record = .ok (result, surplus)) :
    invariant result := by
  induction slots generalizing index items record with
  | nil =>
      rw [fillItems] at filled
      cases filled
      exact holds
  | cons slot rest inductionHypothesis =>
      have keptRest : ∀ slot ∈ rest, slot.Keeps invariant :=
        fun other member => kept other (List.mem_cons_of_mem _ member)
      cases items with
      | nil =>
          rw [fillItems] at filled
          split at filled
          · cases filled
          · split at filled
            · cases filled
            · exact inductionHypothesis keptRest holds filled
      | cons item others =>
          rw [fillItems] at filled
          obtain ⟨put, taken, filled⟩ := Except.bind_eq_ok_iff.mp filled
          have given := inside_eq_ok_iff.mp taken
          exact inductionHypothesis keptRest
            (kept slot List.mem_cons_self _ put given record holds) filled

/-- What the defaults of a record have and every slot keeps is true of all
records that are decoded. -/
theorem decode_invariant
    {schema : Schema σ} {json : Json} {record : σ}
    (kept : ∀ slot ∈ schema.slots, slot.Keeps invariant) (holds : invariant schema.defaults)
    (decoded : schema.decode json = .ok record) :
    invariant record := by
  cases json with
  | object members ended =>
      change schema.decodeMembers members ended = .ok record at decoded
      unfold decodeMembers at decoded
      obtain ⟨_, -, decoded⟩ := Except.bind_eq_ok_iff.mp decoded
      split at decoded
      · exact build_invariant kept holds decoded
      · cases decoded
  | array items ended =>
      change schema.decodeItems items ended = .ok record at decoded
      unfold decodeItems at decoded
      obtain ⟨⟨filled, surplus⟩, taken, decoded⟩ := Except.bind_eq_ok_iff.mp decoded
      simp only at decoded
      split at decoded
      · cases decoded
      · split at decoded
        · cases decoded
          exact fillItems_invariant kept holds taken
        · cases decoded
  | unreadable | broken => cases decoded
  | _ => cases decoded

end Schema

end Json

/-! ## Sources -/

/-- A scheme that a text names. -/
def Scheme.Named (scheme : Scheme) : Prop :=
  ∃ text, Scheme.ofText? text = some scheme

theorem Scheme.named_of_decode
    {json : Json} {scheme : Scheme} (decoded : Scheme.decode json = .ok scheme) :
    scheme.Named := by
  unfold Scheme.decode at decoded
  split at decoded
  · split at decoded
    · cases decoded
      exact ⟨_, ‹_›⟩
    · cases decoded
  · obtain ⟨found, -, impossible⟩ := Except.bind_eq_ok_iff.mp decoded
    cases impossible

theorem Scheme.named_of_decodeOption
    {json : Json} {scheme : Scheme}
    (decoded : Json.decodeOption Scheme.decode json = .ok (some scheme)) :
    scheme.Named := by
  unfold Json.decodeOption at decoded
  split at decoded
  · cases decoded
  · cases found : Scheme.decode json with
    | error problem =>
        rw [found] at decoded
        cases decoded
    | ok named =>
        rw [found] at decoded
        cases decoded
        exact Scheme.named_of_decode found

/-- If a source has a scheme, then a text names it. -/
def ExtractSource.SchemeNamed (source : ExtractSource) : Prop :=
  ∀ scheme, source.scheme = some scheme → scheme.Named

theorem ExtractSource.keeps_schemeNamed :
    ∀ slot ∈ ExtractSource.schema.slots, slot.Keeps ExtractSource.SchemeNamed := by
  intro slot member
  simp only [ExtractSource.schema, List.mem_cons, List.not_mem_nil, or_false] at member
  rcases member with rfl | rfl | rfl | rfl | rfl | rfl | rfl | rfl | rfl | rfl
  all_goals
    apply Json.Slot.keeps_optional
    intro json value decoded record named
  -- Of the ten slots, only the fourth one puts a scheme.
  case inr.inr.inr.inl =>
    intro scheme known
    cases known
    exact Scheme.named_of_decodeOption decoded
  all_goals exact named

theorem ExtractSource.schemeNamed_of_decode
    {json : Json} {source : ExtractSource} (decoded : ExtractSource.decode json = .ok source) :
    source.SchemeNamed := by
  have defaults : ExtractSource.schema.defaults.SchemeNamed := by
    intro scheme impossible
    cases impossible
  exact Json.Schema.decode_invariant ExtractSource.keeps_schemeNamed defaults decoded

/-- A source that was decoded is read as it was stored. -/
theorem ExtractSource.SchemeNamed.entity_record
    {source : ExtractSource} (named : source.SchemeNamed) : source.record.entity = source := by
  obtain ⟨id, name, path, scheme, regex, tablename, cronExpression, skipHeaders, encoding,
    transport⟩ := source
  cases scheme with
  | none =>
      simp only [ExtractSource.record, ExtractSourceRecord.entity, Option.map_none, Option.getD_none,
        Scheme.ofText?_empty]
  | some scheme =>
      obtain ⟨text, isText⟩ := named scheme rfl
      have readAgain := Scheme.ofText?_text isText
      simp only [ExtractSource.record, ExtractSourceRecord.entity, Option.map_some,
        Option.getD_some, readAgain]

/-! ## Edits -/

/-- The payload of an edit was decoded from JSON. -/
def Edit.Decoded : Edit → Prop
  | createSource source | updateSource _ source => ∃ json, ExtractSource.decode json = .ok source
  | createRule rule | updateRule _ rule => ∃ json, ExtractRule.decode json = .ok rule
  | createExtension extension | updateExtension _ extension =>
      ∃ json, Extension.decode json = .ok extension
  | createFunction function | updateFunction _ function =>
      ∃ json, TransformFunction.decode json = .ok function
  | deleteSource _ _ | deleteRule _ | deleteExtension _ | deleteFunction _ => True

end PipelineRegistry
