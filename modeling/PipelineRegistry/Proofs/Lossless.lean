import PipelineRegistry.Proofs.Formats

/-!
# Nothing is lost in JSON

Every value that is stored or sent is taken back from the text that is written for it, and also from
the text of every variation of its object.
-/

namespace PipelineRegistry

open PipelineRegistry.Text
open Json (Part RecordVaries)

namespace Json

/-! ## Texts of values -/

/-- The text holds the value and nothing behind it but blanks. -/
def IsTextOf (text : List UInt8) (json : Json) : Prop :=
  (read text).1 = json ∧ (read text).2.all isBlankByte = true

theorem isTextOf_print {json : Json} (plain : json.IsPlain) :
    IsTextOf (Percent.utf8 (print json).toList) json := by
  unfold IsTextOf
  rw [read_print plain]
  exact ⟨rfl, rfl⟩

theorem decodeWhole_of_isTextOf
    {α : Type} {decode : Decoder α} {text : List UInt8} {json : Json} {value : α}
    (isText : IsTextOf text json) (decoded : decode json = .ok value) :
    decodeWhole decode text = .ok value := by
  obtain ⟨rfl, blank⟩ := isText
  unfold decodeWhole decodeFirst
  rw [decoded]
  change (if (read text).2.all isBlankByte = true then _ else _) = _
  rw [if_pos blank]
  rfl

/-! ## Lawful codecs -/

/-- How the values of a type are written and read. `parts?` are the members of an object, where they
may be varied. -/
structure Codec (α : Type) where
  encode : α → Json
  decode : Decoder α
  Representable : α → Prop
  parts? : Option (List Part)

namespace Codec

variable {α : Type} {codec : Codec α}

/-- The text that is written for a value. -/
def write (codec : Codec α) (value : α) : List UInt8 :=
  Percent.utf8 (print (codec.encode value)).toList

/-- Takes a value from a text that holds nothing else. -/
def read (codec : Codec α) (text : List UInt8) : Except Problem α :=
  decodeWhole codec.decode text

/-- What is written is plain and taken back, and so is every variation of it. -/
structure Lawful (codec : Codec α) : Prop where
  plain : ∀ {value : α}, codec.Representable value → (codec.encode value).IsPlain
  takenBack : ∀ {value : α}, codec.Representable value →
    codec.decode (codec.encode value) = .ok value
  varied : ∀ {value : α}, codec.Representable value → ∀ {parts : List Part} {json : Json},
    codec.parts? = some parts → RecordVaries parts (codec.encode value) json →
      codec.decode json = .ok value

theorem lawful_of_parts
    {encode : α → Json} {decode : Decoder α} {Representable : α → Prop} {parts : List Part}
    (plain : ∀ {value : α}, Representable value → (encode value).IsPlain)
    (varies_self : ∀ value, RecordVaries parts (encode value) (encode value))
    (decode_of_varies : ∀ {value : α}, Representable value → ∀ {json : Json},
      RecordVaries parts (encode value) json → decode json = .ok value) :
    Lawful ⟨encode, decode, Representable, some parts⟩ where
  plain := plain
  takenBack {value} representable := decode_of_varies representable (varies_self value)
  varied := by
    intro value representable parts json known varies
    cases known
    exact decode_of_varies representable varies

theorem Lawful.read_write
    (lawful : codec.Lawful) {value : α} (representable : codec.Representable value) :
    codec.read (codec.write value) = .ok value :=
  decodeWhole_of_isTextOf (isTextOf_print (lawful.plain representable))
    (lawful.takenBack representable)

end Codec

end Json

/-! ## All formats -/

/-- The types of values that are stored or sent as JSON. -/
inductive Format
  | document
  | sourceRecord
  | ruleRecord
  | extensionRecord
  | functionRecord
  | source
  | rule
  | extension
  | function
  | pipeline
  | outcome
  | sideEffectError
  | sourceDetail

namespace Format

/-- The type itself. -/
abbrev Value : Format → Type
  | document => PipelineDocument
  | sourceRecord => ExtractSourceRecord
  | ruleRecord => ExtractRuleRecord
  | extensionRecord => ExtensionRecord
  | functionRecord => TransformFunctionRecord
  | source => ExtractSource
  | rule => ExtractRule
  | extension => Extension
  | function => TransformFunction
  | pipeline => Pipeline
  | outcome => MutationOutcome
  | sideEffectError => SideEffectError
  | sourceDetail => ExtractSourceDetail

/-- Headers to skip must be counted with 64 bits, schemes must be named by some text, and nothing
may have been measured of a source. The details of a source keep the members that they do not know,
so their members are not left open. -/
def codec : (format : Format) → Json.Codec format.Value
  | document => ⟨PipelineDocument.encode, PipelineDocument.decode, PipelineDocument.Representable,
      some PipelineDocument.parts⟩
  | sourceRecord => ⟨ExtractSourceRecord.encode, ExtractSourceRecord.decode,
      ExtractSourceRecord.Representable, some ExtractSourceRecord.parts⟩
  | ruleRecord => ⟨ExtractRuleRecord.encode, ExtractRuleRecord.decode, fun _ => True,
      some ExtractRuleRecord.parts⟩
  | extensionRecord => ⟨ExtensionRecord.encode, ExtensionRecord.decode, fun _ => True,
      some ExtensionRecord.parts⟩
  | functionRecord => ⟨TransformFunctionRecord.encode, TransformFunctionRecord.decode,
      fun _ => True, some TransformFunctionRecord.parts⟩
  | source => ⟨ExtractSource.encode, ExtractSource.decode, ExtractSource.Representable,
      some ExtractSource.parts⟩
  | rule => ⟨ExtractRule.encode, ExtractRule.decode, fun _ => True, some ExtractRule.parts⟩
  | extension => ⟨Extension.encode, Extension.decode, fun _ => True, some Extension.parts⟩
  | function => ⟨TransformFunction.encode, TransformFunction.decode, fun _ => True,
      some TransformFunction.parts⟩
  | pipeline => ⟨Pipeline.encode, Pipeline.decode, Pipeline.Representable, some Pipeline.parts⟩
  | outcome => ⟨MutationOutcome.encode, MutationOutcome.decode, fun _ => True,
      some MutationOutcome.parts⟩
  | sideEffectError => ⟨SideEffectError.encode, SideEffectError.decode, fun _ => True,
      some SideEffectError.parts⟩
  | sourceDetail => ⟨ExtractSourceDetail.encode, ExtractSourceDetail.decode,
      ExtractSourceDetail.Representable, none⟩

open Json.Codec (lawful_of_parts)

theorem lawful (format : Format) : format.codec.Lawful := by
  cases format with
  | document =>
      exact lawful_of_parts PipelineDocument.isPlain_encode PipelineDocument.varies_self
        PipelineDocument.decode_of_varies
  | sourceRecord =>
      exact lawful_of_parts ExtractSourceRecord.isPlain_encode ExtractSourceRecord.varies_self
        ExtractSourceRecord.decode_of_varies
  | ruleRecord =>
      exact lawful_of_parts (fun _ => ExtractRuleRecord.isPlain_encode _)
        ExtractRuleRecord.varies_self fun _ => ExtractRuleRecord.decode_of_varies
  | extensionRecord =>
      exact lawful_of_parts (fun _ => ExtensionRecord.isPlain_encode _)
        ExtensionRecord.varies_self fun _ => ExtensionRecord.decode_of_varies
  | functionRecord =>
      exact lawful_of_parts (fun _ => TransformFunctionRecord.isPlain_encode _)
        TransformFunctionRecord.varies_self fun _ => TransformFunctionRecord.decode_of_varies
  | source =>
      exact lawful_of_parts ExtractSource.isPlain_encode ExtractSource.varies_self
        ExtractSource.decode_of_varies
  | rule =>
      exact lawful_of_parts (fun _ => ExtractRule.isPlain_encode _) ExtractRule.varies_self
        fun _ => ExtractRule.decode_of_varies
  | extension =>
      exact lawful_of_parts (fun _ => Extension.isPlain_encode _) Extension.varies_self
        fun _ => Extension.decode_of_varies
  | function =>
      exact lawful_of_parts (fun _ => TransformFunction.isPlain_encode _)
        TransformFunction.varies_self fun _ => TransformFunction.decode_of_varies
  | pipeline =>
      exact lawful_of_parts Pipeline.isPlain_encode Pipeline.varies_self Pipeline.decode_of_varies
  | outcome =>
      exact lawful_of_parts (fun _ => MutationOutcome.isPlain_encode _)
        MutationOutcome.varies_self fun _ => MutationOutcome.decode_of_varies
  | sideEffectError =>
      exact lawful_of_parts (fun _ => SideEffectError.isPlain_encode _)
        SideEffectError.varies_self fun _ => SideEffectError.decode_of_varies
  | sourceDetail =>
      refine ⟨ExtractSourceDetail.isPlain_encode, ExtractSourceDetail.decode_encode, ?_⟩
      intro detail representable parts json impossible
      cases impossible

end Format

/-- Every value is taken back from the text that is written for it. Members in another order,
members that no reader knows and missing members that hold their defaults change nothing about
that, in any text of the object. -/
theorem json_loses_nothing
    (format : Format) (value : format.Value) (representable : format.codec.Representable value) :
    format.codec.read (format.codec.write value) = .ok value ∧
      ∀ parts json, format.codec.parts? = some parts →
        RecordVaries parts (format.codec.encode value) json →
          format.codec.decode json = .ok value ∧
            ∀ text, Json.IsTextOf text json → format.codec.read text = .ok value := by
  have lawful := format.lawful
  refine ⟨lawful.read_write representable, ?_⟩
  intro parts json known varies
  have decoded := lawful.varied representable known varies
  exact ⟨decoded, fun text isText => Json.decodeWhole_of_isTextOf isText decoded⟩

/-! ## A document written by hand -/

namespace Lossless

def source : ExtractSourceRecord :=
  { id := "1", name := "orders", path := "in/orders", scheme := "CSV", skipHeaders := some 1 }

def document : PipelineDocument :=
  { extractSources := [source] }

/-- The source with its members in reverse order and a foreign one, without the empty texts. -/
def sourceByHand : Json :=
  .record [("Owner", .list [.null]), ("Skipheaders", .integer 1), ("Scheme", .text "CSV"),
    ("Path", .text "in/orders"), ("Name", .text "orders"), ("Id", .text "1")]

/-- The document with the source only and a foreign member before it. -/
def documentByHand : Json :=
  .record [("Comment", .record []), ("Extractsources", .list [sourceByHand])]

theorem document_representable : document.Representable := by
  intro record among count known
  rw [List.mem_singleton.mp among] at known
  cases known
  exact ⟨by decide, by decide⟩

theorem source_varies :
    RecordVaries ExtractSourceRecord.parts source.encode sourceByHand := by
  have needed : ∀ name ∈ ["Id", "Name", "Path"],
      Part.needed name ∈ ExtractSourceRecord.parts := by
    simp [ExtractSourceRecord.parts]
  have texts : ∀ name ∈ ["Scheme", "Regex", "Tablename", "Cronexpression", "Encoding",
      "Transport"], Part.text name ∈ ExtractSourceRecord.parts := by
    simp [ExtractSourceRecord.parts]
  have count : Part.optional "Skipheaders" .null ∈ ExtractSourceRecord.parts := by
    simp [ExtractSourceRecord.parts]
  have trimmed : Json.Trimmed ExtractSourceRecord.parts
      [("Id", .text "1"), ("Name", .text "orders"), ("Path", .text "in/orders"),
        ("Scheme", .text "CSV"), ("Regex", .text ""), ("Tablename", .text ""),
        ("Cronexpression", .text ""), ("Skipheaders", .integer 1), ("Encoding", .text ""),
        ("Transport", .text "")]
      [("Id", .text "1"), ("Name", .text "orders"), ("Path", .text "in/orders"),
        ("Scheme", .text "CSV"), ("Skipheaders", .integer 1)] :=
    .kept (needed "Id" (by simp)) rfl <| .kept (needed "Name" (by simp)) rfl <|
      .kept (needed "Path" (by simp)) rfl <| .kept (texts "Scheme" (by simp)) rfl <|
      .omitted (texts "Regex" (by simp)) rfl <| .omitted (texts "Tablename" (by simp)) rfl <|
      .omitted (texts "Cronexpression" (by simp)) rfl <| .kept count rfl <|
      .omitted (texts "Encoding" (by simp)) rfl <| .omitted (texts "Transport" (by simp)) rfl <|
      .nil
  have strange : ∀ member ∈ [("Owner", Json.list [.null])],
      Json.Foreign ExtractSourceRecord.parts member := by
    intro member among
    rw [List.mem_singleton.mp among]
    have unknown : ∀ name ∈ ExtractSourceRecord.parts.map Part.name, name ≠ "Owner" := by
      decide
    exact ⟨fun part isPart => unknown _ (List.mem_map_of_mem isPart), rfl⟩
  exact ⟨_, _, _, _, rfl, trimmed, strange, (List.reverse_perm _), rfl⟩

theorem document_varies :
    RecordVaries PipelineDocument.parts document.encode documentByHand := by
  have sources : Part.items "Extractsources" ExtractSourceRecord.parts (some (.list [])) ∈
      PipelineDocument.parts := by
    simp [PipelineDocument.parts]
  have rules : Part.items "Extractrules" ExtractRuleRecord.parts (some (.list [])) ∈
      PipelineDocument.parts := by
    simp [PipelineDocument.parts]
  have extensions : Part.items "Extensions" ExtensionRecord.parts (some (.list [])) ∈
      PipelineDocument.parts := by
    simp [PipelineDocument.parts]
  have functions : Part.items "Transformfunctions" TransformFunctionRecord.parts
      (some (.list [])) ∈ PipelineDocument.parts := by
    simp [PipelineDocument.parts]
  have varied : Json.ListVaries (RecordVaries ExtractSourceRecord.parts)
      (.list [source.encode]) (.list [sourceByHand]) :=
    ⟨_, _, rfl, rfl, .cons source_varies .nil⟩
  have trimmed : Json.Trimmed PipelineDocument.parts
      [("Extractsources", .list [source.encode]), ("Extractrules", .list []),
        ("Extensions", .list []), ("Transformfunctions", .list [])]
      [("Extractsources", .list [sourceByHand])] :=
    .kept sources varied <| .omitted rules rfl <| .omitted extensions rfl <|
      .omitted functions rfl .nil
  have strange : ∀ member ∈ [("Comment", Json.record [])],
      Json.Foreign PipelineDocument.parts member := by
    intro member among
    rw [List.mem_singleton.mp among]
    have unknown : ∀ name ∈ PipelineDocument.parts.map Part.name, name ≠ "Comment" := by
      decide
    exact ⟨fun part isPart => unknown _ (List.mem_map_of_mem isPart), rfl⟩
  exact ⟨_, _, _, _, rfl, trimmed, strange, List.reverse_perm _, rfl⟩

theorem documentByHand_plain : documentByHand.IsPlain := by
  refine ⟨rfl, rfl, ⟨rfl, trivial⟩, rfl, ⟨rfl, ⟨rfl, ?_⟩, trivial⟩, trivial⟩
  exact ⟨rfl, ⟨rfl, trivial, trivial⟩, rfl, ⟨by decide, by decide⟩, rfl, trivial, rfl, trivial, rfl,
    trivial, rfl, trivial, trivial⟩

end Lossless

/-- The document is read from its own text and from the text that was written by hand. -/
theorem json_loses_nothing_byHand :
    Format.document.codec.read (Format.document.codec.write Lossless.document) =
        .ok Lossless.document ∧
      Format.document.codec.read (Percent.utf8 (Json.print Lossless.documentByHand).toList) =
        .ok Lossless.document := by
  obtain ⟨takenBack, varied⟩ :=
    json_loses_nothing .document Lossless.document Lossless.document_representable
  have read := (varied _ _ rfl Lossless.document_varies).2
  exact ⟨takenBack, read _ (Json.isTextOf_print Lossless.documentByHand_plain)⟩

end PipelineRegistry
