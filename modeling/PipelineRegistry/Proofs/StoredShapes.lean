import PipelineRegistry.Proofs.Snapshots

/-!
# What is stored and what is shown

Clients see entities, the store keeps records. Nothing is lost on the way from an entity to its
record and back. On the way from a record to its entity and back only the scheme of a source can
change: a record may hold any text there, and what comes back is the one text that schemes are
written with. A second passage changes nothing any more. The scheme that paths of rules are checked
against is the one that clients are shown.
-/

namespace PipelineRegistry

open Registry
open PipelineRegistry.Text

/-! ## Texts that are trimmed and in capitals -/

namespace Text

theorem upperAscii_eq_self_iff {c : Char} :
    upperAscii c = c ↔ ¬ (97 ≤ c.toNat ∧ c.toNat ≤ 122) := by
  constructor
  · intro same small
    have moved := toNat_upperAscii_of_small small
    rw [same] at moved
    omega
  · exact upperAscii_of_not_small

theorem upper_eq_self_iff {text : String} :
    upper text = text ↔ ∀ c ∈ text.toList, ¬ (97 ≤ c.toNat ∧ c.toNat ≤ 122) := by
  have pointwise : text.toList.map upperAscii = text.toList ↔
      ∀ c ∈ text.toList, upperAscii c = c := by
    conv_lhs => rhs; rw [← List.map_id text.toList]
    exact List.map_inj_left
  unfold upper
  rw [← String.toList_inj, String.toList_ofList, pointwise]
  simp only [upperAscii_eq_self_iff]

/-- Trimming leaves a list alone if it neither begins nor ends with a blank. -/
theorem trimChars_eq_self_iff {cs : List Char} :
    trimChars cs = cs ↔
      (∀ c, cs.head? = some c → isBlank c = false) ∧
        ∀ c, cs.getLast? = some c → isBlank c = false := by
  have front : cs.dropWhile isBlank = cs ↔ ∀ c, cs.head? = some c → isBlank c = false := by
    cases cs with
    | nil => simp
    | cons first rest => simp [List.dropWhile_eq_self_iff]
  have back : cs.rdropWhile isBlank = cs ↔ ∀ c, cs.getLast? = some c → isBlank c = false := by
    rw [List.rdropWhile_eq_self_iff]
    rcases List.eq_nil_or_concat cs with rfl | ⟨initial, last, rfl⟩
    · simp
    · simp
  rw [← front, ← back, trimChars_eq_rdropWhile]
  constructor
  · intro same
    have shorter := (List.rdropWhile_prefix isBlank (cs.dropWhile isBlank)).length_le
    have suffix := List.dropWhile_suffix (l := cs) isBlank
    rw [same] at shorter
    have kept : cs.dropWhile isBlank = cs :=
      suffix.eq_of_length (Nat.le_antisymm suffix.length_le shorter)
    rw [kept] at same
    exact ⟨kept, same⟩
  · rintro ⟨kept, same⟩
    rw [kept, same]

/-- Trimming leaves nothing of blanks, and something of all else. -/
theorem trimChars_eq_nil_iff {cs : List Char} :
    trimChars cs = [] ↔ ∀ c ∈ cs, isBlank c = true := by
  rw [trimChars_eq_rdropWhile, List.rdropWhile_eq_nil_iff]
  constructor
  · intro rest c member
    rw [← List.takeWhile_append_dropWhile (p := isBlank) (l := cs)] at member
    rcases List.mem_append.mp member with member | member
    · exact List.mem_takeWhile_imp member
    · exact rest c member
  · intro all c member
    exact all c ((List.dropWhile_sublist isBlank).subset member)

theorem trim_eq_self_iff {text : String} :
    trim text = text ↔ trimChars text.toList = text.toList := by
  unfold trim
  rw [← String.toList_inj, String.toList_ofList]

theorem trim_eq_empty_iff {text : String} : trim text = "" ↔ isBlankText text = true := by
  have empties : trim text = "" ↔ trimChars text.toList = [] := by
    unfold trim
    rw [← String.toList_eq_nil_iff, String.toList_ofList]
  rw [empties, trimChars_eq_nil_iff, isBlankText, List.all_eq_true]

theorem upper_trim_eq_self_iff {text : String} :
    upper (trim text) = text ↔ trim text = text ∧ upper text = text := by
  constructor
  · intro same
    have trimmed : trim text = text := by
      calc
        trim text = trim (upper (trim text)) := by rw [same]
        _ = upper (trim (trim text)) := by
          unfold upper trim
          simp only [String.toList_ofList, trimChars_map_upperAscii]
        _ = upper (trim text) := by
          unfold trim
          simp only [String.toList_ofList, trimChars_trimChars]
        _ = text := same
    exact ⟨trimmed, by rw [trimmed] at same; exact same⟩
  · rintro ⟨trimmed, capital⟩
    rw [trimmed, capital]

end Text

/-! ## Schemes -/

namespace Scheme

/-- A text that schemes are written with: it is not empty, no blanks are around it, and it has no
small ASCII letters. -/
structure Canonical (text : String) : Prop where
  filled : text ≠ ""
  begins : ∀ c, text.toList.head? = some c → isBlank c = false
  ends : ∀ c, text.toList.getLast? = some c → isBlank c = false
  capital : ∀ c ∈ text.toList, ¬ ('a'.toNat ≤ c.toNat ∧ c.toNat ≤ 'z'.toNat)

theorem canonical_iff {text : String} :
    Canonical text ↔ text ≠ "" ∧ upper (trim text) = text := by
  rw [upper_trim_eq_self_iff, trim_eq_self_iff, trimChars_eq_self_iff, upper_eq_self_iff]
  constructor
  · rintro ⟨filled, begins, ends, capital⟩
    exact ⟨filled, ⟨begins, ends⟩, capital⟩
  · rintro ⟨filled, ⟨begins, ends⟩, capital⟩
    exact ⟨filled, begins, ends, capital⟩

theorem ofText?_eq_none_iff {source : String} :
    ofText? source = none ↔ isBlankText source = true := by
  rw [← trim_eq_empty_iff]
  have empties : upper (trim source) = "" ↔ trim source = "" := by
    unfold upper
    have chars : (trim source).toList = [] ↔ trim source = "" := String.toList_eq_nil_iff
    rw [← chars, ← String.toList_eq_nil_iff, String.toList_ofList, List.map_eq_nil_iff]
  rw [← empties]
  unfold ofText?
  simp only
  by_cases empty : upper (trim source) = ""
  · simp [empty]
  · have filled : (upper (trim source)).isEmpty = false := by simpa using empty
    simp [filled, empty]

variable {source : String} {scheme : Scheme}

theorem text_of_ofText? (named : ofText? source = some scheme) :
    scheme.text = upper (trim source) := by
  rw [(ofText?_eq_some_iff.mp named).2, text_ofName]

theorem canonical_text (named : ofText? source = some scheme) : Canonical scheme.text := by
  rw [canonical_iff, text_of_ofText? named, upper_trim_upper_trim]
  exact ⟨(ofText?_eq_some_iff.mp named).1, rfl⟩

theorem Canonical.text_ofName (canonical : Canonical source) :
    ofText? source = some (ofName source) := by
  obtain ⟨filled, same⟩ := canonical_iff.mp canonical
  rw [ofText?_eq_some_iff, same]
  exact ⟨filled, rfl⟩

/-- A scheme that is known by name is never kept as another one. -/
theorem ofName_ne_other
    {name : String} (known : name ∈ ["CSV", "XML", "JSON", "API", "XLSX"]) (text : String) :
    ofName text ≠ other name := by
  intro same
  have written : text = name := by
    rw [← Scheme.text_ofName text, same]
    rfl
  subst written
  simp only [List.mem_cons, List.not_mem_nil, or_false] at known
  rcases known with rfl | rfl | rfl | rfl | rfl
  all_goals cases same

/-- A scheme that was named by some text has one text of its own, which names it again. -/
structure WrittenOnce (scheme : Scheme) : Prop where
  again : ofText? scheme.text = some scheme
  canonical : Canonical scheme.text
  apart : ∀ other : Scheme, other.Named → other.text = scheme.text → other = scheme
  unknown : ∀ name, scheme = other name → name ∉ ["CSV", "XML", "JSON", "API", "XLSX"]

theorem Named.writtenOnce (named : scheme.Named) : scheme.WrittenOnce := by
  obtain ⟨source, read⟩ := named
  have again := ofText?_text read
  refine ⟨again, canonical_text read, ?_, ?_⟩
  · rintro other ⟨source', read'⟩ same
    have otherAgain := ofText?_text read'
    rw [same, again] at otherAgain
    exact (Option.some.inj otherAgain).symm
  · rintro name rfl known
    obtain ⟨-, same⟩ := ofText?_eq_some_iff.mp read
    exact ofName_ne_other known _ same.symm

end Scheme

/-! ## Entities and back -/

/-- An entity of any kind is what its record shows. A source must have a scheme that was named by a
text, if it has one. -/
structure EntitiesReturn : Prop where
  source : ∀ source : ExtractSource, source.SchemeNamed → source.record.entity = source
  rule : ∀ rule : ExtractRule, rule.record.entity = rule
  extension : ∀ extension : Extension, extension.record.entity = extension
  function : ∀ function : TransformFunction, function.record.entity = function

theorem entitiesReturn : EntitiesReturn :=
  ⟨fun _ named => named.entity_record, fun _ => rfl, fun _ => rfl, fun _ => rfl⟩

/-! ## Records and back -/

/-- What becomes of a stored source that is shown and stored again: it gets the canonical text of
its scheme, or none if it was blank, and is settled then. -/
structure ExtractSourceRecord.Settles (record : ExtractSourceRecord) : Prop where
  named : ∀ scheme, Scheme.ofText? record.scheme = some scheme →
    record.entity.record = { record with scheme := scheme.text }
  blank : (∀ c ∈ record.scheme.toList, isBlank c = true) →
    record.entity.record = { record with scheme := "" }
  unchanged : record.entity.record = record ↔
    record.scheme = "" ∨ Scheme.Canonical record.scheme
  once : record.entity.record.entity.record = record.entity.record

namespace ExtractSourceRecord

variable {record : ExtractSourceRecord}

theorem record_entity_of_named
    {scheme : Scheme} (named : Scheme.ofText? record.scheme = some scheme) :
    record.entity.record = { record with scheme := scheme.text } := by
  simp only [ExtractSourceRecord.entity, ExtractSource.record, named, Option.map_some,
    Option.getD_some]

theorem record_entity_of_unnamed (unnamed : Scheme.ofText? record.scheme = none) :
    record.entity.record = { record with scheme := "" } := by
  simp only [ExtractSourceRecord.entity, ExtractSource.record, unnamed, Option.map_none,
    Option.getD_none]

theorem withScheme_eq_self_iff {text : String} :
    { record with scheme := text } = record ↔ text = record.scheme := by
  constructor
  · intro same
    exact congrArg ExtractSourceRecord.scheme same
  · rintro rfl
    rfl

theorem scheme_entity (record : ExtractSourceRecord) :
    record.entity.scheme = Scheme.ofText? record.scheme := by
  simp only [ExtractSourceRecord.entity]

theorem schemeNamed_entity (record : ExtractSourceRecord) : record.entity.SchemeNamed := by
  intro scheme known
  rw [scheme_entity] at known
  exact ⟨record.scheme, known⟩

theorem settles (record : ExtractSourceRecord) : record.Settles where
  named := fun _ => record_entity_of_named
  blank := by
    intro blank
    apply record_entity_of_unnamed
    rw [Scheme.ofText?_eq_none_iff]
    exact List.all_eq_true.mpr blank
  unchanged := by
    cases named : Scheme.ofText? record.scheme with
    | none =>
        rw [record_entity_of_unnamed named, withScheme_eq_self_iff]
        constructor
        · exact fun same => Or.inl same.symm
        · rintro (empty | canonical)
          · exact empty.symm
          · rw [canonical.text_ofName] at named
            cases named
    | some scheme =>
        rw [record_entity_of_named named, withScheme_eq_self_iff]
        constructor
        · intro same
          rw [← same]
          exact Or.inr (Scheme.canonical_text named)
        · rintro (empty | canonical)
          · rw [empty, Scheme.ofText?_empty] at named
            cases named
          · rw [Scheme.text_of_ofText? named]
            exact (Scheme.canonical_iff.mp canonical).2
  once := by rw [(schemeNamed_entity record).entity_record]

end ExtractSourceRecord

/-- A record of any kind is what the entity that it shows is stored as, but for the scheme of a
source. -/
structure RecordsReturn : Prop where
  source : ∀ record : ExtractSourceRecord, record.Settles
  rule : ∀ record : ExtractRuleRecord, record.entity.record = record
  extension : ∀ record : ExtensionRecord, record.entity.record = record
  function : ∀ record : TransformFunctionRecord, record.entity.record = record

theorem recordsReturn : RecordsReturn :=
  ⟨ExtractSourceRecord.settles, fun _ => rfl, fun _ => rfl, fun _ => rfl⟩

/-! ## The scheme that paths are checked against -/

/-- The scheme that the first source with an id has in a list of sources. -/
def listedScheme? (sources : List ExtractSource) (id : String) : Option Scheme :=
  (sources.find? (·.id == id)).bind ExtractSource.scheme

/-- The paths of rules for a source are checked against the scheme that clients are shown of it,
whichever way they ask. -/
structure ChecksShownScheme (context : Context) (store : Store) (document : PipelineDocument) :
    Prop where
  listed : ∀ surroundings id, ∃ sources,
    (listSources context).serve surroundings store = (.ok sources, store) ∧
      document.sourceScheme? id = listedScheme? sources id
  shown : ∀ surroundings id detail,
    (getSource context id).serve surroundings store = (.ok detail, store) →
      document.sourceScheme? id = detail.source.scheme
  absent : ∀ surroundings id error,
    (getSource context id).serve surroundings store = (.error error, store) →
      document.sourceScheme? id = none
  checked : ∀ enforces id (rule : ExtractRule) error,
    checkRule enforces document id rule = .error (.invalid (.columnPath error)) ↔
      ColumnPath.validate (document.sourceScheme? id) rule.columnPath = .error error

theorem sourceScheme?_eq_listed (document : PipelineDocument) (id : String) :
    document.sourceScheme? id = listedScheme? document.snapshot.sources id := by
  have found : document.snapshot.sources.find? (·.id == id) =
      (document.findSource? id).map ExtractSourceRecord.entity :=
    find?_map_entity (fun _ => rfl) document.extractSources id
  unfold PipelineDocument.sourceScheme? listedScheme?
  rw [found]
  cases document.findSource? id with
  | none => rfl
  | some record =>
      simp only [Option.map_some, Option.bind_some, ExtractSourceRecord.scheme_entity]

theorem checkRule_eq_columnPath_iff
    {enforces : Bool} {document : PipelineDocument} {id : String} {rule : ExtractRule}
    {error : ColumnPath.PathError} :
    checkRule enforces document id rule = .error (.invalid (.columnPath error)) ↔
      ColumnPath.validate (document.sourceScheme? id) rule.columnPath = .error error := by
  unfold checkRule
  cases ColumnPath.validate (document.sourceScheme? id) rule.columnPath with
  | error other => simp
  | ok passed =>
      simp only [reduceCtorEq, iff_false]
      split
      · simp
      · simp

theorem checksShownScheme
    {store : Store} {context : Context} {document : PipelineDocument} {counter : Int}
    (known : store.find? context.key = some ⟨document, counter⟩) :
    ChecksShownScheme context store document where
  listed := by
    intro surroundings id
    exact ⟨_, (showsSnapshot known surroundings).sources, sourceScheme?_eq_listed document id⟩
  shown := by
    intro surroundings id detail served
    rw [sourceScheme?_eq_listed]
    rcases serve_getSource_cases surroundings known id with
      ⟨told, answered, tells⟩ | ⟨-, refused⟩
    · rw [served] at answered
      cases answered
      unfold listedScheme?
      rw [tells.source]
      rfl
    · rw [served] at refused
      cases refused
  absent := by
    intro surroundings id error served
    rw [sourceScheme?_eq_listed]
    rcases serve_getSource_cases surroundings known id with
      ⟨told, answered, -⟩ | ⟨unlisted, -⟩
    · rw [served] at answered
      cases answered
    · unfold listedScheme?
      rw [unlisted]
      rfl
  checked := fun _ _ _ _ => checkRule_eq_columnPath_iff

/-! ## The main statement -/

/-- Texts that are not blank name schemes, each of which has one text; entities and records go over
into each other and back without loss; and the scheme of a source is one and the same wherever it
matters. -/
theorem shapes_map_without_loss :
    (∀ text, Scheme.ofText? text = none ↔ ∀ c ∈ text.toList, isBlank c = true) ∧
      (∀ scheme : Scheme, scheme.Named → scheme.WrittenOnce) ∧
      EntitiesReturn ∧
      RecordsReturn ∧
      ∀ (store : Store) (context : Context) (document : PipelineDocument) (counter : Int),
        store.find? context.key = some ⟨document, counter⟩ →
        ChecksShownScheme context store document := by
  refine ⟨?_, fun _ named => named.writtenOnce, entitiesReturn, recordsReturn,
    fun _ _ _ _ known => checksShownScheme known⟩
  intro text
  rw [Scheme.ofText?_eq_none_iff]
  exact List.all_eq_true

/-! ### A source whose scheme is written with small letters and blanks -/

namespace SmallScheme

def record : ExtractSourceRecord :=
  { id := "1", name := "orders", path := "/orders", scheme := "\tftp " }

def context : Context :=
  ⟨{}, ⟨"default", "sales"⟩⟩

def document : PipelineDocument :=
  { extractSources := [record] }

def store : Store :=
  ⟨[(context.key, ⟨document, 2⟩)]⟩

theorem ofText?_scheme : Scheme.ofText? record.scheme = some (.other "FTP") := by
  decide

theorem find?_store : store.find? context.key = some ⟨document, 2⟩ :=
  rfl

end SmallScheme

theorem shapes_map_without_loss_smallScheme :
    Scheme.ofText? SmallScheme.record.scheme = some (.other "FTP") ∧
      (Scheme.other "FTP").WrittenOnce ∧
      SmallScheme.record.entity.record = { SmallScheme.record with scheme := "FTP" } ∧
      SmallScheme.store.find? SmallScheme.context.key = some ⟨SmallScheme.document, 2⟩ ∧
      ChecksShownScheme SmallScheme.context SmallScheme.store SmallScheme.document := by
  obtain ⟨-, schemes, -, records, checks⟩ := shapes_map_without_loss
  have named := SmallScheme.ofText?_scheme
  exact ⟨named, schemes _ ⟨_, named⟩, (records.source SmallScheme.record).named _ named,
    SmallScheme.find?_store, checks _ _ _ _ SmallScheme.find?_store⟩

end PipelineRegistry
