import PipelineRegistry.Json.Problem
import PipelineRegistry.Json.Reader

/-!
# Decoding JSON values

Decoders go through a value in the order of its text, so that the first problem of the text is the
one that is reported. A record is described by its slots. It is decoded from an object, in which
unknown members are skipped, or from an array with the slots in order.
-/

namespace PipelineRegistry.Json

/-- Takes a value of the type out of JSON, or says what is wrong. -/
abbrev Decoder (α : Type) : Type :=
  Json → Except Problem α

/-- What was found, or the end of understanding. -/
def found (json : Json) : Except Problem Found :=
  match json with
  | .null => .ok .null
  | .boolean value => .ok (.boolean value)
  | .integer value => .ok (.integer value)
  | .float value => .ok (.float value)
  | .text value => .ok (.text value)
  | .array _ _ => .ok .sequence
  | .object _ _ => .ok .map
  | .unreadable | .broken => .error .malformed

/-- The value is of another type than expected. -/
def unexpected {α : Type} (expected : Expected) (json : Json) : Except Problem α := do
  throw (.mismatch [] (.wrongType (← found json) expected))

/-- Reports the problems of a decoder from one step further out. -/
def inside {α : Type} (step : Step) (result : Except Problem α) : Except Problem α :=
  result.mapError (Problem.inside step)

/-! ## Scalars -/

/-- A text. -/
def decodeText : Decoder String
  | .text value => .ok value
  | json => unexpected .text json

/-- A truth value. -/
def decodeBoolean : Decoder Bool
  | .boolean value => .ok value
  | json => unexpected .boolean json

/-- The integers of 64 bits with a sign lie below this bound, and not below its negative. -/
def int64Bound : Nat :=
  1 <<< 63

/-- An integer of 64 bits with a sign. -/
def decodeInt64 : Decoder Int
  | .integer value =>
      if -(int64Bound : Int) ≤ value && value < int64Bound then .ok value
      else .error (.mismatch [] (.wrongValue (.integer value) .int64))
  | json => unexpected .int64 json

/-- A floating point number, which may be written as an integer. -/
def decodeFloat : Decoder Binary64
  | .integer value => .ok (Binary64.ofInt value)
  | .float value => .ok value
  | json => unexpected .float64 json

/-- Nothing but `null`. -/
def decodeUnit : Decoder Unit
  | .null => .ok ()
  | json => unexpected .unit json

/-- A value, or `null` for none. -/
def decodeOption {α : Type} (decode : Decoder α) : Decoder (Option α)
  | .null => .ok none
  | json => (decode json).map some

/-! ## Lists -/

/-- Decodes the items of an array from a given index on. -/
def decodeItems {α : Type} (decode : Decoder α) (index : Nat) :
    List Json → Except Problem (List α)
  | [] => .ok []
  | item :: rest => do
      let first ← inside (.item index) (decode item)
      let others ← decodeItems decode (index + 1) rest
      return first :: others

/-- An array of values that are all decoded alike. -/
def decodeList {α : Type} (decode : Decoder α) : Decoder (List α)
  | .array items ended => do
      let values ← decodeItems decode 0 items
      if ended then return values else throw .malformed
  | json => unexpected .sequence json

/-! ## Variants -/

/-- Looks up the variant that a name stands for. -/
def decodeVariantName {α : Type} (variants : List (String × α)) (name : String) :
    Except Problem α :=
  match variants.lookup name with
  | some value => .ok value
  | none => .error (.mismatch [] (.unknownVariant name (variants.map Prod.fst)))

/-- One of several names, alone or as the only key of an object whose value is `null`. -/
def decodeVariant {α : Type} (variants : List (String × α)) : Decoder α
  | .text name => decodeVariantName variants name
  | .object ((some name, content) :: others) ended => do
      let value ← decodeVariantName variants name
      decodeUnit content
      if others.isEmpty && ended then return value else throw .malformed
  | _ => .error .malformed

/-! ## Records -/

/-- A field of a record. `fill` decodes the field and puts it into a record. -/
structure Slot (σ : Type) where
  name : String
  isRequired : Bool
  fill : Decoder (σ → σ)

/-- A field that must be there. -/
def Slot.required {σ α : Type} (name : String) (decode : Decoder α) (put : α → σ → σ) : Slot σ :=
  ⟨name, true, fun json => (decode json).map put⟩

/-- A field that keeps its default when it is not there. -/
def Slot.optional {σ α : Type} (name : String) (decode : Decoder α) (put : α → σ → σ) : Slot σ :=
  ⟨name, false, fun json => (decode json).map put⟩

/-- A record type by its name, its record of defaults and its fields in order. -/
structure Schema (σ : Type) where
  name : String
  defaults : σ
  slots : List (Slot σ)

namespace Schema

variable {σ : Type}

/-- The slot for a key. -/
def slot? (schema : Schema σ) (key : String) : Option (Slot σ) :=
  schema.slots.find? (·.name == key)

/-- The members of an object are checked in the order of the text: every key is readable, no key of
a field comes twice, fields decode and other values are skipped. -/
def scan (schema : Schema σ) (seen : List String) :
    List (Option String × Json) → Except Problem Unit
  | [] => .ok ()
  | (none, _) :: _ => .error .malformed
  | (some key, value) :: rest =>
      match schema.slot? key with
      | some slot =>
          if seen.contains key then .error (.mismatch [] (.duplicateField key))
          else do
            let _ ← inside (.member key) (slot.fill value)
            scan schema (key :: seen) rest
      | none => if value.isSkippable then scan schema seen rest else .error .malformed

/-- The value of a field among the members of an object. -/
def member? (members : List (Option String × Json)) (name : String) : Option Json :=
  members.lookup (some name)

/-- Fills the fields in their order from the values that are there. -/
def build (value? : String → Option Json) : List (Slot σ) → σ → Except Problem σ
  | [], record => .ok record
  | slot :: rest, record =>
      match value? slot.name with
      | some value => do
          let put ← slot.fill value
          build value? rest (put record)
      | none =>
          if slot.isRequired then .error (.mismatch [] (.missingField slot.name))
          else build value? rest record

/-- A record from the members of an object. -/
def decodeMembers (schema : Schema σ) (members : List (Option String × Json)) (ended : Bool) :
    Except Problem σ := do
  schema.scan [] members
  if ended then build (member? members) schema.slots schema.defaults else throw .malformed

/-- Fills the fields from the items of an array in order. Where the items of a whole array are used
up, fields keep their defaults, and one that must be there makes the array too short. -/
def fillItems (schema : Schema σ) (count : Nat) (ended : Bool) (index : Nat) :
    List (Slot σ) → List Json → σ → Except Problem (σ × List Json)
  | [], items, record => .ok (record, items)
  | slot :: slots, item :: items, record => do
      let put ← inside (.item index) (slot.fill item)
      fillItems schema count ended (index + 1) slots items (put record)
  | slot :: slots, [], record =>
      if !ended then .error .malformed
      else if slot.isRequired then
        .error (.mismatch [] (.tooFewItems count schema.name schema.slots.length))
      else fillItems schema count ended index slots [] record

/-- A record from the items of an array. -/
def decodeItems (schema : Schema σ) (items : List Json) (ended : Bool) : Except Problem σ := do
  let (record, surplus) ←
    fillItems schema items.length ended 0 schema.slots items schema.defaults
  if !ended then throw .malformed
  else if surplus.isEmpty then return record
  else throw (.mismatch [] (.tooManyItems items.length))

/-- A record from an object or an array. -/
def decode (schema : Schema σ) : Decoder σ
  | .object members ended => schema.decodeMembers members ended
  | .array items ended => schema.decodeItems items ended
  | json => unexpected (.record schema.name) json

end Schema

/-! ## Texts -/

/-- Decodes the first value of a text and ignores what is behind it. -/
def decodeFirst {α : Type} (decode : Decoder α) (bytes : List UInt8) : Except Problem α :=
  (decode (read bytes).1).mapError Problem.ofText

/-- Decodes a text that holds one value and nothing else. -/
def decodeWhole {α : Type} (decode : Decoder α) (bytes : List UInt8) : Except Problem α := do
  let value ← decodeFirst decode bytes
  if (read bytes).2.all isBlankByte then return value else throw .malformed

end PipelineRegistry.Json
