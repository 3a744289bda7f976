import PipelineRegistry.Document.Json
import PipelineRegistry.Entity.Json
import PipelineRegistry.Proofs.Variations

/-!
# Formats of stored and sent values

Every type that is stored or sent has a format: the members that its readers know, with what they
assume where a member is missing. A value is decoded from every variation of the object that is
written for it, and what is written is plain, so the text of it reads back as it is.
-/

namespace PipelineRegistry

open Json (Part RecordVaries ListVaries)

/-! ## Optional values -/

namespace Json

theorem decodeOption_integer {count : Int} (fits : IsInt64 count) :
    decodeOption decodeInt64 (.integer count) = .ok (some count) := by
  obtain ⟨low, high⟩ := fits
  have within : (decide (-(int64Bound : Int) ≤ count) &&
      decide (count < (int64Bound : Int))) = true := by
    rw [decide_eq_true low, decide_eq_true high]
    rfl
  simp only [decodeOption, decodeInt64, within, ↓reduceIte]
  rfl

end Json

theorem Scheme.decodeOption_encode {scheme : Scheme} (named : scheme.Named) :
    Json.decodeOption Scheme.decode scheme.encode = .ok (some scheme) := by
  obtain ⟨text, isText⟩ := named
  have again := Scheme.ofText?_text isText
  simp only [Scheme.encode, Json.decodeOption, Scheme.decode, again]
  rfl

/-! ## Stored records -/

namespace ExtractSourceRecord

/-- The headers to skip are counted with 64 bits. -/
def Representable (record : ExtractSourceRecord) : Prop :=
  ∀ count, record.skipHeaders = some count → Json.IsInt64 count

def parts : List Part :=
  [.needed "Id", .needed "Name", .needed "Path", .text "Scheme", .text "Regex", .text "Tablename",
    .text "Cronexpression", .optional "Skipheaders" .null, .text "Encoding", .text "Transport"]

theorem decode_of_varies
    {record : ExtractSourceRecord} (representable : record.Representable) {json : Json}
    (varies : RecordVaries parts record.encode json) :
    ExtractSourceRecord.decode json = .ok record := by
  apply Json.Schema.decode_of_varies varies rfl (by decide)
    (by cases record.skipHeaders <;> simp)
  intro value? shows
  unfold schema
  iterate 3 rw [shows.needed (by simp [parts]) (by rfl) (by rfl)]
  iterate 4 rw [shows.text (by simp [parts]) (by rfl) (by rfl)]
  rw [shows.option (by simp [parts]) (by cases record.skipHeaders <;> rfl)
    (fun count given => Json.decodeOption_integer (representable count given)) (by rfl)]
  iterate 2 rw [shows.text (by simp [parts]) (by cases record.skipHeaders <;> rfl) (by rfl)]
  rfl

theorem varies_self (record : ExtractSourceRecord) :
    RecordVaries parts record.encode record.encode := by
  apply RecordVaries.refl
  cases record.skipHeaders <;> simp [parts, Part.needed, Part.text, Part.optional]

theorem isPlain_encode
    {record : ExtractSourceRecord} (representable : record.Representable) :
    record.encode.IsPlain := by
  apply Json.isPlain_record
  cases known : record.skipHeaders with
  | none => simp [Json.IsPlain]
  | some count => simp [Json.IsPlain, representable count known]

end ExtractSourceRecord

namespace ExtractRuleRecord

def parts : List Part :=
  [.needed "Id", .needed "Extractsourceid", .text "Columnname", .text "Columnpath",
    .text "Columntype", .text "Matchvalues", .text "Transformfunctionname"]

theorem decode_of_varies
    {record : ExtractRuleRecord} {json : Json} (varies : RecordVaries parts record.encode json) :
    ExtractRuleRecord.decode json = .ok record := by
  apply Json.Schema.decode_of_varies varies rfl (by decide) (by simp)
  intro value? shows
  unfold schema
  iterate 2 rw [shows.needed (by simp [parts]) (by rfl) (by rfl)]
  iterate 5 rw [shows.text (by simp [parts]) (by rfl) (by rfl)]
  rfl

theorem varies_self (record : ExtractRuleRecord) :
    RecordVaries parts record.encode record.encode := by
  apply RecordVaries.refl
  simp [parts, Part.needed, Part.text, Part.optional]

theorem isPlain_encode (record : ExtractRuleRecord) : record.encode.IsPlain := by
  apply Json.isPlain_record
  simp [Json.IsPlain]

end ExtractRuleRecord

namespace ExtensionRecord

def parts : List Part :=
  [.needed "Id", .needed "Extractsourceid", .text "Name", .text "Path"]

theorem decode_of_varies
    {record : ExtensionRecord} {json : Json} (varies : RecordVaries parts record.encode json) :
    ExtensionRecord.decode json = .ok record := by
  apply Json.Schema.decode_of_varies varies rfl (by decide) (by simp)
  intro value? shows
  unfold schema
  iterate 2 rw [shows.needed (by simp [parts]) (by rfl) (by rfl)]
  iterate 2 rw [shows.text (by simp [parts]) (by rfl) (by rfl)]
  rfl

theorem varies_self (record : ExtensionRecord) :
    RecordVaries parts record.encode record.encode := by
  apply RecordVaries.refl
  simp [parts, Part.needed, Part.text, Part.optional]

theorem isPlain_encode (record : ExtensionRecord) : record.encode.IsPlain := by
  apply Json.isPlain_record
  simp [Json.IsPlain]

end ExtensionRecord

namespace TransformFunctionRecord

def parts : List Part :=
  [.needed "Id", .text "Name", .text "Source"]

theorem decode_of_varies
    {record : TransformFunctionRecord} {json : Json}
    (varies : RecordVaries parts record.encode json) :
    TransformFunctionRecord.decode json = .ok record := by
  apply Json.Schema.decode_of_varies varies rfl (by decide) (by simp)
  intro value? shows
  unfold schema
  rw [shows.needed (by simp [parts]) (by rfl) (by rfl)]
  iterate 2 rw [shows.text (by simp [parts]) (by rfl) (by rfl)]
  rfl

theorem varies_self (record : TransformFunctionRecord) :
    RecordVaries parts record.encode record.encode := by
  apply RecordVaries.refl
  simp [parts, Part.needed, Part.text, Part.optional]

theorem isPlain_encode (record : TransformFunctionRecord) : record.encode.IsPlain := by
  apply Json.isPlain_record
  simp [Json.IsPlain]

end TransformFunctionRecord

/-! ## Documents -/

namespace PipelineDocument

/-- All sources can be represented. -/
def Representable (document : PipelineDocument) : Prop :=
  ∀ record ∈ document.extractSources, record.Representable

def parts : List Part :=
  [.items "Extractsources" ExtractSourceRecord.parts (some (.list [])),
    .items "Extractrules" ExtractRuleRecord.parts (some (.list [])),
    .items "Extensions" ExtensionRecord.parts (some (.list [])),
    .items "Transformfunctions" TransformFunctionRecord.parts (some (.list []))]

variable {document : PipelineDocument}

theorem decode_of_varies
    (representable : document.Representable) {json : Json}
    (varies : RecordVaries parts document.encode json) :
    PipelineDocument.decode json = .ok document := by
  apply Json.Schema.decode_of_varies varies rfl (by decide) (by simp)
  intro value? shows
  unfold schema
  rw [shows.items (by simp [parts]) (by rfl)
    (fun record among _ => ExtractSourceRecord.decode_of_varies (representable record among))
    (by rfl)]
  rw [shows.items (by simp [parts]) (by rfl)
    (fun _ _ _ => ExtractRuleRecord.decode_of_varies) (by rfl)]
  rw [shows.items (by simp [parts]) (by rfl)
    (fun _ _ _ => ExtensionRecord.decode_of_varies) (by rfl)]
  rw [shows.items (by simp [parts]) (by rfl)
    (fun _ _ _ => TransformFunctionRecord.decode_of_varies) (by rfl)]
  rfl

theorem varies_self (document : PipelineDocument) :
    RecordVaries parts document.encode document.encode := by
  apply RecordVaries.refl
  simp [parts, Part.items, ListVaries.refl, ExtractSourceRecord.varies_self,
    ExtractRuleRecord.varies_self, ExtensionRecord.varies_self,
    TransformFunctionRecord.varies_self]

theorem isPlain_encode
    {document : PipelineDocument} (representable : document.Representable) :
    document.encode.IsPlain := by
  have sources := Json.isPlain_list
    fun record among => ExtractSourceRecord.isPlain_encode (representable record among)
  apply Json.isPlain_record
  simp [sources, Json.isPlain_list, ExtractRuleRecord.isPlain_encode,
    ExtensionRecord.isPlain_encode, TransformFunctionRecord.isPlain_encode]

end PipelineDocument

/-! ## Entities -/

namespace ExtractSource

/-- The scheme can be named by a text, and the headers to skip are counted with 64 bits. -/
def Representable (source : ExtractSource) : Prop :=
  source.SchemeNamed ∧ ∀ count, source.skipHeaders = some count → Json.IsInt64 count

def parts : List Part :=
  [.text "id", .text "name", .text "path", .optional "scheme" .null, .text "regex",
    .text "tablename", .text "cronExpression", .optional "skipHeaders" .null, .text "encoding",
    .text "transport"]

theorem nodup_members (source : ExtractSource) : (source.members.map Prod.fst).Nodup := by
  unfold members optionalMember
  cases source.scheme <;> cases source.skipHeaders <;> simp

theorem decode_of_varies
    {source : ExtractSource} (representable : source.Representable) {json : Json}
    (varies : RecordVaries parts source.encode json) :
    ExtractSource.decode json = .ok source := by
  obtain ⟨named, fits⟩ := representable
  apply Json.Schema.decode_of_varies varies rfl (by decide) source.nodup_members
  intro value? shows
  unfold members optionalMember at shows
  unfold schema
  iterate 3 rw [shows.text (by simp [parts]) (by rfl) (by rfl)]
  rw [shows.option (by simp [parts]) (by cases source.scheme <;> cases source.skipHeaders <;> rfl)
    (fun scheme given => Scheme.decodeOption_encode (named scheme given)) (by rfl)]
  iterate 3 rw [shows.text (by simp [parts]) (by cases source.scheme <;> rfl) (by rfl)]
  rw [shows.option (by simp [parts]) (by cases source.scheme <;> cases source.skipHeaders <;> rfl)
    (fun count given => Json.decodeOption_integer (fits count given)) (by rfl)]
  iterate 2 rw [shows.text (by simp [parts])
    (by cases source.scheme <;> cases source.skipHeaders <;> rfl) (by rfl)]
  rfl

theorem varies_self (source : ExtractSource) :
    RecordVaries parts source.encode source.encode := by
  apply RecordVaries.refl
  unfold members optionalMember
  cases source.scheme <;> cases source.skipHeaders <;> simp [parts, Part.text, Part.optional]

theorem mem_members
    {source : ExtractSource} {member : String × Json} (among : member ∈ source.members) :
    member.1 ∈ parts.map Part.name ∧ member.2.isSkippable = true ∧
      ∀ depth, member.2.isKeepable depth = true := by
  revert member
  unfold members optionalMember Scheme.encode
  cases source.scheme <;> cases source.skipHeaders <;>
    simp [parts, Part.text, Part.optional, Json.isKeepable, Json.isSkippable]

theorem isPlain_members
    {source : ExtractSource} (representable : source.Representable) :
    ∀ member ∈ source.members, member.2.IsPlain := by
  unfold members optionalMember Scheme.encode
  cases known : source.skipHeaders with
  | none => cases source.scheme <;> simp [Json.IsPlain]
  | some count =>
      have fits := representable.2 count known
      cases source.scheme <;> simp [Json.IsPlain, fits]

theorem isPlain_encode
    {source : ExtractSource} (representable : source.Representable) : source.encode.IsPlain :=
  Json.isPlain_record (isPlain_members representable)

end ExtractSource

namespace ExtractRule

def parts : List Part :=
  [.text "id", .text "extractSourceId", .text "columnName", .text "columnPath", .text "columnType",
    .text "matchValues", .text "transformFunctionName"]

theorem decode_of_varies
    {rule : ExtractRule} {json : Json} (varies : RecordVaries parts rule.encode json) :
    ExtractRule.decode json = .ok rule := by
  apply Json.Schema.decode_of_varies varies rfl (by decide) (by simp)
  intro value? shows
  unfold schema
  iterate 7 rw [shows.text (by simp [parts]) (by rfl) (by rfl)]
  rfl

theorem varies_self (rule : ExtractRule) :
    RecordVaries parts rule.encode rule.encode := by
  apply RecordVaries.refl
  simp [parts, Part.text, Part.optional]

theorem isPlain_encode (rule : ExtractRule) : rule.encode.IsPlain := by
  apply Json.isPlain_record
  simp [Json.IsPlain]

end ExtractRule

namespace Extension

def parts : List Part :=
  [.text "id", .text "extractSourceId", .text "name", .text "path"]

theorem decode_of_varies
    {extension : Extension} {json : Json} (varies : RecordVaries parts extension.encode json) :
    Extension.decode json = .ok extension := by
  apply Json.Schema.decode_of_varies varies rfl (by decide) (by simp)
  intro value? shows
  unfold schema
  iterate 4 rw [shows.text (by simp [parts]) (by rfl) (by rfl)]
  rfl

theorem varies_self (extension : Extension) :
    RecordVaries parts extension.encode extension.encode := by
  apply RecordVaries.refl
  simp [parts, Part.text, Part.optional]

theorem isPlain_encode (extension : Extension) : extension.encode.IsPlain := by
  apply Json.isPlain_record
  simp [Json.IsPlain]

end Extension

namespace TransformFunction

def parts : List Part :=
  [.text "id", .text "name", .text "source"]

theorem decode_of_varies
    {function : TransformFunction} {json : Json}
    (varies : RecordVaries parts function.encode json) :
    TransformFunction.decode json = .ok function := by
  apply Json.Schema.decode_of_varies varies rfl (by decide) (by simp)
  intro value? shows
  unfold schema
  iterate 3 rw [shows.text (by simp [parts]) (by rfl) (by rfl)]
  rfl

theorem varies_self (function : TransformFunction) :
    RecordVaries parts function.encode function.encode := by
  apply RecordVaries.refl
  simp [parts, Part.text, Part.optional]

theorem isPlain_encode (function : TransformFunction) : function.encode.IsPlain := by
  apply Json.isPlain_record
  simp [Json.IsPlain]

end TransformFunction

/-! ## Pipelines and outcomes -/

namespace Pipeline

/-- All sources can be represented. -/
def Representable (pipeline : Pipeline) : Prop :=
  ∀ source ∈ pipeline.extractSources, source.Representable

def parts : List Part :=
  [.needed "namespace", .needed "name", .needed "version",
    .items "extractSources" ExtractSource.parts none,
    .items "extractRules" ExtractRule.parts none, .items "extensions" Extension.parts none,
    .items "transformFunctions" TransformFunction.parts none]

theorem decode_of_varies
    {pipeline : Pipeline} (representable : pipeline.Representable) {json : Json}
    (varies : RecordVaries parts pipeline.encode json) :
    Pipeline.decode json = .ok pipeline := by
  apply Json.Schema.decode_of_varies varies rfl (by decide) (by simp)
  intro value? shows
  unfold schema
  iterate 3 rw [shows.needed (by simp [parts]) (by rfl) (by rfl)]
  rw [shows.neededItems (by simp [parts]) (by rfl)
    (fun source among _ => ExtractSource.decode_of_varies (representable source among))]
  rw [shows.neededItems (by simp [parts]) (by rfl) (fun _ _ _ => ExtractRule.decode_of_varies)]
  rw [shows.neededItems (by simp [parts]) (by rfl) (fun _ _ _ => Extension.decode_of_varies)]
  rw [shows.neededItems (by simp [parts]) (by rfl)
    (fun _ _ _ => TransformFunction.decode_of_varies)]
  rfl

theorem varies_self (pipeline : Pipeline) :
    RecordVaries parts pipeline.encode pipeline.encode := by
  apply RecordVaries.refl
  simp [parts, Part.needed, Part.items, ListVaries.refl, ExtractSource.varies_self,
    ExtractRule.varies_self, Extension.varies_self, TransformFunction.varies_self]

theorem isPlain_encode
    {pipeline : Pipeline} (representable : pipeline.Representable) :
    pipeline.encode.IsPlain := by
  have sources := Json.isPlain_list
    fun source among => ExtractSource.isPlain_encode (representable source among)
  apply Json.isPlain_record
  simp [Json.IsPlain, sources, Json.isPlain_list, ExtractRule.isPlain_encode,
    Extension.isPlain_encode, TransformFunction.isPlain_encode]

end Pipeline

namespace SideEffectError

def parts : List Part :=
  [.needed "effect", .needed "detail"]

theorem decode_of_varies
    {failure : SideEffectError} {json : Json}
    (varies : RecordVaries parts failure.encode json) :
    SideEffectError.decode json = .ok failure := by
  have effect : Json.decodeVariant SideEffect.variants (.text failure.effect.text) =
      .ok failure.effect := by
    cases failure.effect <;> rfl
  apply Json.Schema.decode_of_varies varies rfl (by decide) (by simp)
  intro value? shows
  unfold schema
  rw [shows.needed (by simp [parts]) (by rfl) effect,
    shows.needed (by simp [parts]) (by rfl) (by rfl)]
  rfl

theorem varies_self (failure : SideEffectError) :
    RecordVaries parts failure.encode failure.encode := by
  apply RecordVaries.refl
  simp [parts, Part.needed]

theorem isPlain_encode (failure : SideEffectError) : failure.encode.IsPlain := by
  apply Json.isPlain_record
  simp [Json.IsPlain]

end SideEffectError

namespace MutationOutcome

def parts : List Part :=
  [.needed "id", .items "sideEffectErrors" SideEffectError.parts (some (.list []))]

theorem decode_of_varies
    {outcome : MutationOutcome} {json : Json}
    (varies : RecordVaries parts outcome.encode json) :
    MutationOutcome.decode json = .ok outcome := by
  apply Json.Schema.decode_of_varies varies rfl (by decide)
    (by cases outcome.sideEffectErrors.isEmpty <;> simp)
  intro value? shows
  unfold schema
  obtain ⟨id, failures⟩ := outcome
  rw [shows.needed (by simp [parts]) (by rfl) (by rfl)]
  cases failures with
  | nil =>
      have isPart :
          Part.items "sideEffectErrors" SideEffectError.parts (some (.list [])) ∈ parts := by
        simp [parts]
      rw [shows.leftOut isPart (by rfl) (by rfl)]
      rfl
  | cons first rest =>
      rw [shows.items (by simp [parts]) (by rfl) (fun _ _ _ => SideEffectError.decode_of_varies)
        (by rfl)]
      rfl

theorem varies_self (outcome : MutationOutcome) :
    RecordVaries parts outcome.encode outcome.encode := by
  apply RecordVaries.refl
  cases outcome.sideEffectErrors.isEmpty <;>
    simp [parts, Part.needed, Part.items, ListVaries.refl, SideEffectError.varies_self]

theorem isPlain_encode (outcome : MutationOutcome) : outcome.encode.IsPlain := by
  apply Json.isPlain_record
  cases outcome.sideEffectErrors.isEmpty <;>
    simp [Json.IsPlain, Json.isPlain_list, SideEffectError.isPlain_encode]

end MutationOutcome

/-! ## Details of a source -/

namespace ExtractSourceDetail

/-- The source can be represented, and nothing has been measured. -/
def Representable (detail : ExtractSourceDetail) : Prop :=
  detail.source.Representable ∧ detail.metrics = []

/-- The members that stand beside those of the source. -/
def ownParts : List Part :=
  [.items "extractRules" ExtractRule.parts none, .items "extensions" Extension.parts none,
    .optional "workerActive" .null, .items "metrics" [] none]

/-- What is written beside the members of the source. -/
def ownMembers (detail : ExtractSourceDetail) : List (String × Json) :=
  [("extractRules", .list (detail.extractRules.map ExtractRule.encode)),
    ("extensions", .list (detail.extensions.map Extension.encode))] ++
  optionalMember "workerActive" (detail.workerActive.map Json.boolean) ++
  [("metrics", .list (detail.metrics.map SourceMetric.encode))]

theorem encode_eq (detail : ExtractSourceDetail) :
    detail.encode = .record (detail.source.members ++ detail.ownMembers) := by
  unfold encode ownMembers
  simp only [List.append_assoc]

theorem slot?_of_mem_members
    {source : ExtractSource} {member : String × Json} (among : member ∈ source.members) :
    schema.slot? member.1 = none ∧ (ExtractSource.schema.slot? member.1).isSome = true := by
  have apart : ∀ name ∈ ExtractSource.parts.map Part.name,
      (schema.slot? name).isSome = false ∧ (ExtractSource.schema.slot? name).isSome = true := by
    decide
  obtain ⟨unknown, known⟩ := apart _ (ExtractSource.mem_members among).1
  exact ⟨Option.not_isSome_iff_eq_none.mp (Bool.eq_false_iff.mp unknown), known⟩

theorem slot?_of_mem_ownMembers
    {detail : ExtractSourceDetail} {member : String × Json} (among : member ∈ detail.ownMembers) :
    (schema.slot? member.1).isSome = true := by
  rw [Json.Schema.slot?_isSome_iff]
  revert member
  unfold ownMembers optionalMember
  cases detail.workerActive <;> simp [schema, Json.Slot.required, Json.Slot.optional]

theorem scan_strange
    {members : List (String × Json)} (rest : List (Option String × Json)) (seen : List String)
    (strange : ∀ member ∈ members, schema.slot? member.1 = none ∧
      member.2.isKeepable (Json.depthLimit - 1) = true) :
    scan seen (Json.keyed members ++ rest) = scan seen rest := by
  induction members with
  | nil => rfl
  | cons member others inductionHypothesis =>
      obtain ⟨⟨unknown, kept⟩, strangeOthers⟩ := List.forall_mem_cons.mp strange
      have further := inductionHypothesis strangeOthers
      unfold Json.keyed at further ⊢
      rw [List.map_cons, List.cons_append, scan]
      simp only [unknown, kept, ↓reduceIte]
      exact further

theorem scan_own
    {members : List (String × Json)} (seen : List String)
    (own : ∀ member ∈ members, (schema.slot? member.1).isSome = true) :
    scan seen (Json.keyed members) = schema.scan seen (Json.keyed members) := by
  induction members generalizing seen with
  | nil => rfl
  | cons member others inductionHypothesis =>
      obtain ⟨known, ownOthers⟩ := List.forall_mem_cons.mp own
      obtain ⟨slot, isSlot⟩ := Option.isSome_iff_exists.mp known
      have further := inductionHypothesis (member.1 :: seen) ownOthers
      unfold Json.keyed at further ⊢
      rw [List.map_cons, scan, Json.Schema.scan]
      simp only [isSlot, further]

theorem sourceMembers_encode (detail : ExtractSourceDetail) :
    sourceMembers (Json.keyed (detail.source.members ++ detail.ownMembers)) =
      Json.keyed detail.source.members := by
  unfold sourceMembers Json.keyed
  rw [List.map_append, List.filter_append, List.filter_eq_self.mpr, List.filter_eq_nil_iff.mpr,
    List.append_nil]
  · intro keyed among
    obtain ⟨member, isMember, rfl⟩ := List.mem_map.mp among
    obtain ⟨slot, isSlot⟩ := Option.isSome_iff_exists.mp (slot?_of_mem_ownMembers isMember)
    simp [isSlot]
  · intro keyed among
    obtain ⟨member, isMember, rfl⟩ := List.mem_map.mp among
    obtain ⟨unknown, known⟩ := slot?_of_mem_members isMember
    simp only [unknown, known, Option.isNone_none, Bool.and_self]

theorem nodup_ownMembers (detail : ExtractSourceDetail) :
    (detail.ownMembers.map Prod.fst).Nodup := by
  unfold ownMembers optionalMember
  cases detail.workerActive <;> simp

/-- The members of the source are foreign to the fields of the detail itself. -/
theorem foreign_members (source : ExtractSource) :
    ∀ member ∈ source.members, Json.Foreign ownParts member := by
  intro member among
  obtain ⟨named, skippable, -⟩ := ExtractSource.mem_members among
  have apart : ∀ name ∈ ExtractSource.parts.map Part.name,
      ∀ part ∈ ownParts.map Part.name, part ≠ name := by
    decide
  exact ⟨fun part isPart => apart _ named _ (List.mem_map_of_mem isPart), skippable⟩

theorem shows_ownMembers
    {detail : ExtractSourceDetail} (unmeasured : detail.metrics = []) :
    Json.Shows ownParts detail.ownMembers
      fun name => (detail.source.members ++ detail.ownMembers).lookup name := by
  have metrics : ListVaries (RecordVaries []) (.list []) (.list []) :=
    ⟨[], [], rfl, rfl, .nil⟩
  have own : Json.Trimmed ownParts detail.ownMembers detail.ownMembers := by
    apply Json.Trimmed.refl
    unfold ownMembers optionalMember
    cases detail.workerActive <;>
      simp [ownParts, Part.optional, Part.items, ListVaries.refl, ExtractRule.varies_self,
        Extension.varies_self, unmeasured, metrics]
  exact Json.shows_of_trimmed (by decide) detail.nodup_ownMembers own
    (foreign_members detail.source) List.perm_append_comm

theorem build_own
    {detail : ExtractSourceDetail} (unmeasured : detail.metrics = [])
    {value? : String → Option Json} (shows : Json.Shows ownParts detail.ownMembers value?) :
    Json.Schema.build value? schema.slots schema.defaults = .ok { detail with source := {} } := by
  have active : ∀ value, detail.workerActive = some value →
      Json.decodeOption Json.decodeBoolean (.boolean value) = .ok (some value) :=
    fun _ _ => rfl
  have noMetric : ∀ metric ∈ detail.metrics, ∀ json,
      RecordVaries [] metric.encode json → SourceMetric.decode json = .ok metric := by
    rw [unmeasured]
    intro metric impossible
    cases impossible
  unfold ownMembers optionalMember at shows
  unfold schema
  rw [shows.neededItems (by simp [ownParts]) (by rfl) (fun _ _ _ => ExtractRule.decode_of_varies),
    shows.neededItems (by simp [ownParts]) (by rfl) (fun _ _ _ => Extension.decode_of_varies),
    shows.option (by simp [ownParts]) (by cases detail.workerActive <;> rfl) active (by rfl),
    shows.neededItems (by simp [ownParts]) (by cases detail.workerActive <;> rfl) noMetric]
  rfl

theorem scan_members
    {detail : ExtractSourceDetail} (unmeasured : detail.metrics = []) :
    scan [] (Json.keyed (detail.source.members ++ detail.ownMembers)) = .ok () := by
  have strange : ∀ member ∈ detail.source.members, schema.slot? member.1 = none ∧
      member.2.isKeepable (Json.depthLimit - 1) = true :=
    fun member among =>
      ⟨(slot?_of_mem_members among).1, (ExtractSource.mem_members among).2.2 _⟩
  have ownFields : ∀ member ∈ detail.ownMembers, (schema.slot? member.1).isSome = true :=
    fun member among => slot?_of_mem_ownMembers among
  have appended : Json.keyed (detail.source.members ++ detail.ownMembers) =
      Json.keyed detail.source.members ++ Json.keyed detail.ownMembers :=
    List.map_append
  have built := build_own unmeasured (shows_ownMembers unmeasured)
  have fills := Json.Schema.fills_of_build rfl detail.nodup_ownMembers
    (foreign_members detail.source) List.perm_append_comm built
  rw [appended, scan_strange _ _ strange, scan_own _ ownFields]
  apply Json.Schema.scan_eq_ok
  · exact fun member among => fills member (List.mem_append_right _ among)
  · intro member among unknown
    have known := ownFields member among
    rw [unknown] at known
    cases known
  · exact detail.nodup_ownMembers.filter _
  · intro name among isField
    exact List.not_mem_nil

theorem decode_encode
    {detail : ExtractSourceDetail} (representable : detail.Representable) :
    ExtractSourceDetail.decode detail.encode = .ok detail := by
  obtain ⟨source, unmeasured⟩ := representable
  have scanned := scan_members unmeasured
  have looksUp : Json.Schema.member?
      (Json.keyed (detail.source.members ++ detail.ownMembers)) =
        fun name => (detail.source.members ++ detail.ownMembers).lookup name :=
    funext (Json.lookup_some _)
  have built := build_own unmeasured (shows_ownMembers unmeasured)
  have decoded : ExtractSource.schema.decodeMembers (Json.keyed detail.source.members) true =
      .ok detail.source :=
    ExtractSource.decode_of_varies source detail.source.varies_self
  rw [encode_eq, Json.record_eq, decode, scanned, looksUp, built, sourceMembers_encode, decoded]
  rfl

theorem isPlain_encode
    {detail : ExtractSourceDetail} (representable : detail.Representable) :
    detail.encode.IsPlain := by
  obtain ⟨source, unmeasured⟩ := representable
  have members := ExtractSource.isPlain_members source
  have metrics : (Json.list []).IsPlain := ⟨rfl, trivial⟩
  have own : ∀ member ∈ detail.ownMembers, member.2.IsPlain := by
    unfold ownMembers optionalMember
    cases detail.workerActive <;>
      simp [Json.IsPlain, Json.isPlain_list, ExtractRule.isPlain_encode,
        Extension.isPlain_encode, unmeasured, metrics]
  rw [encode_eq]
  exact Json.isPlain_record (List.forall_mem_append.mpr ⟨members, own⟩)

end ExtractSourceDetail

end PipelineRegistry
