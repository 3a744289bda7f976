import Mathlib.Data.List.Forall2
import Mathlib.Data.List.Nodup
import Mathlib.Data.List.Perm.Basic
import PipelineRegistry.Proofs.Decoding
import PipelineRegistry.Proofs.PrintedValues

/-!
# Variations of objects

An object may be written in many ways: its members may stand in any order, members that no reader
knows may stand among them, and members that hold their defaults may be missing. A record is decoded
from all of them alike, because every field finds its own member or keeps its default.
-/

namespace PipelineRegistry.Json

/-! ## What may be varied -/

/-- A member that readers know: its name, how its value may be varied, and the value that a reader
assumes where the member is missing. -/
structure Part where
  name : String
  varies : Json → Json → Prop
  missing? : Option Json

/-- A member that must be there. -/
def Part.needed (name : String) : Part :=
  ⟨name, Eq, none⟩

/-- A member that may be missing. -/
def Part.optional (name : String) (missing : Json) : Part :=
  ⟨name, Eq, some missing⟩

/-- A member with a text that is empty where it is missing. -/
def Part.text (name : String) : Part :=
  .optional name (.text "")

/-- Members with varied values, without some that hold the values their readers assume. -/
inductive Trimmed (parts : List Part) :
    List (String × Json) → List (String × Json) → Prop
  | nil : Trimmed parts [] []
  | kept {part : Part} {value varied : Json} {given left : List (String × Json)} :
      part ∈ parts → part.varies value varied → Trimmed parts given left →
        Trimmed parts ((part.name, value) :: given) ((part.name, varied) :: left)
  | omitted {part : Part} {value : Json} {given left : List (String × Json)} :
      part ∈ parts → part.missing? = some value → Trimmed parts given left →
        Trimmed parts ((part.name, value) :: given) left

/-- A well-formed member with a name that readers do not know. -/
def Foreign (parts : List Part) (member : String × Json) : Prop :=
  (∀ part ∈ parts, part.name ≠ member.1) ∧ member.2.isSkippable = true

/-- An object with the members of another one in some order: with varied values, without members
that hold their defaults, and with foreign members. -/
def RecordVaries (parts : List Part) (given varied : Json) : Prop :=
  ∃ members left foreign all,
    given = .record members ∧ Trimmed parts members left ∧
      (∀ member ∈ foreign, Foreign parts member) ∧ all.Perm (left ++ foreign) ∧
        varied = .record all

/-- An array with the items of another one, each of them varied. -/
def ListVaries (item : Json → Json → Prop) (given varied : Json) : Prop :=
  ∃ items others, given = .list items ∧ varied = .list others ∧ List.Forall₂ item items others

/-- A member that holds an array of objects. -/
def Part.items (name : String) (parts : List Part) (missing? : Option Json) : Part :=
  ⟨name, ListVaries (RecordVaries parts), missing?⟩

theorem Trimmed.refl
    {parts : List Part} {given : List (String × Json)}
    (each : ∀ member ∈ given, ∃ part ∈ parts,
      part.name = member.1 ∧ part.varies member.2 member.2) :
    Trimmed parts given given := by
  induction given with
  | nil => exact .nil
  | cons member rest inductionHypothesis =>
      obtain ⟨name, value⟩ := member
      obtain ⟨⟨part, isPart, rfl, varies⟩, others⟩ := List.forall_mem_cons.mp each
      exact .kept isPart varies (inductionHypothesis others)

theorem RecordVaries.refl
    {parts : List Part} {given : List (String × Json)}
    (each : ∀ member ∈ given, ∃ part ∈ parts,
      part.name = member.1 ∧ part.varies member.2 member.2) :
    RecordVaries parts (record given) (record given) := by
  have order : given.Perm (given ++ []) := by rw [List.append_nil]
  refine ⟨given, given, [], given, rfl, .refl each, ?_, order, rfl⟩
  intro member impossible
  cases impossible

theorem ListVaries.refl
    {α : Type} {item : Json → Json → Prop} {encode : α → Json} {values : List α}
    (each : ∀ value ∈ values, item (encode value) (encode value)) :
    ListVaries item (.list (values.map encode)) (.list (values.map encode)) := by
  refine ⟨_, _, rfl, rfl, List.forall₂_map_left_iff.mpr (List.forall₂_map_right_iff.mpr ?_)⟩
  exact List.forall₂_same.mpr each

/-! ## What readers find -/

theorem record_inj {left right : List (String × Json)} (same : record left = record right) :
    left = right := by
  injection same with same
  have injective : Function.Injective
      fun member : String × Json => (some member.1, member.2) := by
    rintro ⟨key, value⟩ ⟨otherKey, other⟩ same
    simpa using same
  exact injective.list_map same

theorem lookup_of_mem
    {members : List (String × Json)} {name : String} {value : Json}
    (among : (name, value) ∈ members)
    (unique : ∀ other, (name, other) ∈ members → other = value) :
    members.lookup name = some value := by
  cases found : members.lookup name with
  | none =>
      have absent := List.lookup_eq_none_iff.mp found (name, value) among
      simp at absent
  | some other =>
      obtain ⟨before, behind, same, -⟩ := List.lookup_eq_some_iff.mp found
      have present : (name, other) ∈ members := by
        rw [same]
        exact List.mem_append_right _ List.mem_cons_self
      rw [unique other present]

theorem lookup_eq_none_iff_not_mem {members : List (String × Json)} {name : String} :
    members.lookup name = none ↔ name ∉ members.map Prod.fst := by
  rw [List.lookup_eq_none_iff]
  constructor
  · intro differs present
    obtain ⟨member, among, rfl⟩ := List.mem_map.mp present
    simpa using differs member among
  · intro absent member among
    have different : name ≠ member.1 := by
      rintro rfl
      exact absent (List.mem_map_of_mem among)
    simpa using different

theorem lookup_some (members : List (String × Json)) (name : String) :
    Schema.member? (keyed members) name = members.lookup name := by
  induction members with
  | nil => rfl
  | cons member rest inductionHypothesis =>
      obtain ⟨key, value⟩ := member
      unfold Schema.member? keyed at inductionHypothesis ⊢
      rw [List.map_cons, List.lookup_cons, List.lookup_cons, inductionHypothesis]
      rfl

theorem mem_of_lookup
    {members : List (String × Json)} {name : String} {value : Json}
    (found : members.lookup name = some value) : (name, value) ∈ members := by
  obtain ⟨before, behind, same, -⟩ := List.lookup_eq_some_iff.mp found
  rw [same]
  exact List.mem_append_right _ List.mem_cons_self

/-- What readers find under the names that they know: a variation of the value that was given, or
nothing where the value is the one that they assume or where there was none. -/
structure Shows (parts : List Part) (given : List (String × Json))
    (value? : String → Option Json) : Prop where
  found : ∀ {part : Part} {value : Json}, part ∈ parts → given.lookup part.name = some value →
    (∃ varied, value? part.name = some varied ∧ part.varies value varied) ∨
      (value? part.name = none ∧ part.missing? = some value)
  absent : ∀ {part : Part}, part ∈ parts → given.lookup part.name = none →
    value? part.name = none

namespace Trimmed

variable {parts : List Part} {given left : List (String × Json)}

theorem names_sublist (trimmed : Trimmed parts given left) :
    (left.map Prod.fst).Sublist (given.map Prod.fst) := by
  induction trimmed with
  | nil => exact List.Sublist.slnil
  | kept _ _ _ inductionHypothesis => exact inductionHypothesis.cons_cons _
  | omitted _ _ _ inductionHypothesis => exact inductionHypothesis.cons _

theorem known (trimmed : Trimmed parts given left) :
    ∀ name ∈ given.map Prod.fst, name ∈ parts.map Part.name := by
  induction trimmed with
  | nil =>
      intro name impossible
      cases impossible
  | kept isPart _ _ inductionHypothesis =>
      exact List.forall_mem_cons.mpr ⟨List.mem_map_of_mem isPart, inductionHypothesis⟩
  | omitted isPart _ _ inductionHypothesis =>
      exact List.forall_mem_cons.mpr ⟨List.mem_map_of_mem isPart, inductionHypothesis⟩

/-- Each given member is there with a varied value, or it is missing and holds the value that its
reader assumes. -/
theorem found (trimmed : Trimmed parts given left) (once : (given.map Prod.fst).Nodup)
    {name : String} {value : Json} (among : (name, value) ∈ given) :
    ∃ part ∈ parts, part.name = name ∧
      ((∃ varied, (name, varied) ∈ left ∧ part.varies value varied) ∨
        (name ∉ left.map Prod.fst ∧ part.missing? = some value)) := by
  induction trimmed with
  | nil => cases among
  | @kept part first varied given left isPart varies trimmed inductionHypothesis =>
      obtain ⟨fresh, onceRest⟩ := List.nodup_cons.mp once
      rcases List.mem_cons.mp among with same | behind
      · cases same
        exact ⟨part, isPart, rfl, Or.inl ⟨varied, List.mem_cons_self, varies⟩⟩
      · have different : name ≠ part.name := by
          intro named
          rw [named] at behind
          exact fresh (List.mem_map.mpr ⟨_, behind, rfl⟩)
        obtain ⟨other, isOther, named, ⟨kept, present, keptVaries⟩ | ⟨missing, assumed⟩⟩ :=
          inductionHypothesis onceRest behind
        · exact ⟨other, isOther, named,
            Or.inl ⟨kept, List.mem_cons_of_mem _ present, keptVaries⟩⟩
        · exact ⟨other, isOther, named,
            Or.inr ⟨List.not_mem_cons_of_ne_of_not_mem different missing, assumed⟩⟩
  | @omitted part first given left isPart assumed trimmed inductionHypothesis =>
      obtain ⟨fresh, onceRest⟩ := List.nodup_cons.mp once
      rcases List.mem_cons.mp among with same | behind
      · cases same
        have missing : part.name ∉ left.map Prod.fst :=
          fun present => fresh (trimmed.names_sublist.subset present)
        exact ⟨part, isPart, rfl, Or.inr ⟨missing, assumed⟩⟩
      · exact inductionHypothesis onceRest behind

end Trimmed

section Varied

variable {parts : List Part} {given left foreign all : List (String × Json)}

theorem mem_left_of_known
    (strange : ∀ member ∈ foreign, Foreign parts member) (order : all.Perm (left ++ foreign))
    {part : Part} (isPart : part ∈ parts) {value : Json} (among : (part.name, value) ∈ all) :
    (part.name, value) ∈ left := by
  rcases List.mem_append.mp (order.mem_iff.mp among) with known | unknown
  · exact known
  · exact absurd rfl ((strange _ unknown).1 part isPart)

/-- A member that readers know comes once. -/
theorem lookup_of_known
    (once : (left.map Prod.fst).Nodup) (strange : ∀ member ∈ foreign, Foreign parts member)
    (order : all.Perm (left ++ foreign)) {part : Part} (isPart : part ∈ parts) {value : Json}
    (among : (part.name, value) ∈ all) : all.lookup part.name = some value := by
  apply lookup_of_mem among
  intro other again
  have known := mem_left_of_known strange order isPart among
  have knownAgain := mem_left_of_known strange order isPart again
  exact congrArg Prod.snd (List.inj_on_of_nodup_map once knownAgain known rfl)

theorem shows_of_trimmed
    (distinct : (parts.map Part.name).Nodup) (once : (given.map Prod.fst).Nodup)
    (trimmed : Trimmed parts given left) (strange : ∀ member ∈ foreign, Foreign parts member)
    (order : all.Perm (left ++ foreign)) :
    Shows parts given fun name => all.lookup name := by
  have onceLeft : (left.map Prod.fst).Nodup := once.sublist trimmed.names_sublist
  have missing {part : Part} (isPart : part ∈ parts) (absent : part.name ∉ left.map Prod.fst) :
      all.lookup part.name = none := by
    apply lookup_eq_none_iff_not_mem.mpr
    intro present
    obtain ⟨⟨name, value⟩, among, same⟩ := List.mem_map.mp present
    rw [show name = part.name from same] at among
    exact absent (List.mem_map_of_mem (mem_left_of_known strange order isPart among))
  constructor
  · intro part value isPart written
    obtain ⟨other, isOther, named, result⟩ := trimmed.found once (mem_of_lookup written)
    have same : other = part := List.inj_on_of_nodup_map distinct isOther isPart named
    subst same
    rcases result with ⟨varied, present, varies⟩ | ⟨absent, assumed⟩
    · have among : (other.name, varied) ∈ all := order.mem_iff.mpr (List.mem_append_left _ present)
      exact Or.inl ⟨varied, lookup_of_known onceLeft strange order isPart among, varies⟩
    · exact Or.inr ⟨missing isPart absent, assumed⟩
  · intro part isPart unwritten
    apply missing isPart
    intro present
    exact lookup_eq_none_iff_not_mem.mp unwritten (trimmed.names_sublist.subset present)

theorem nodup_known
    (once : (left.map Prod.fst).Nodup) (strange : ∀ member ∈ foreign, Foreign parts member)
    (order : all.Perm (left ++ foreign)) {isKnown : String → Bool}
    (known : ∀ name, isKnown name = true → name ∈ parts.map Part.name) :
    ((all.map Prod.fst).filter isKnown).Nodup := by
  have names : ((all.map Prod.fst).filter isKnown).Perm
      ((left.map Prod.fst).filter isKnown ++ (foreign.map Prod.fst).filter isKnown) := by
    rw [← List.filter_append, ← List.map_append]
    exact (order.map Prod.fst).filter isKnown
  have none : (foreign.map Prod.fst).filter isKnown = [] := by
    rw [List.filter_eq_nil_iff]
    intro name among isField
    obtain ⟨member, isForeign, rfl⟩ := List.mem_map.mp among
    obtain ⟨part, isPart, named⟩ := List.mem_map.mp (known _ isField)
    exact (strange member isForeign).1 part isPart named
  rw [none, List.append_nil] at names
  exact names.nodup_iff.mpr (once.filter isKnown)

end Varied

/-! ## Decoding records -/

namespace Schema

variable {σ : Type} {schema : Schema σ}

theorem slot?_isSome_iff {name : String} :
    (schema.slot? name).isSome = true ↔ name ∈ schema.slots.map Slot.name := by
  simp [slot?, List.find?_isSome]

/-- The members of an object pass when each field comes once with a value that fills it and the
other values may be skipped. -/
theorem scan_eq_ok
    {members : List (String × Json)} {seen : List String}
    (fills : ∀ member ∈ members, ∀ slot, schema.slot? member.1 = some slot →
      ∃ put, slot.fill member.2 = .ok put)
    (skips : ∀ member ∈ members, schema.slot? member.1 = none → member.2.isSkippable = true)
    (once : ((members.map Prod.fst).filter fun name => (schema.slot? name).isSome).Nodup)
    (unseen : ∀ name ∈ members.map Prod.fst, (schema.slot? name).isSome = true → name ∉ seen) :
    schema.scan seen (keyed members) = .ok () := by
  induction members generalizing seen with
  | nil => rfl
  | cons member rest inductionHypothesis =>
      obtain ⟨name, value⟩ := member
      have fillsRest := fun member among => fills member (List.mem_cons_of_mem _ among)
      have skipsRest := fun member among => skips member (List.mem_cons_of_mem _ among)
      have unseenRest := fun name among => unseen name (List.mem_cons_of_mem _ among)
      rw [List.map_cons, List.filter_cons] at once
      unfold keyed at inductionHypothesis ⊢
      rw [List.map_cons, scan]
      cases known : schema.slot? name with
      | none =>
          simp only [known, Option.isSome_none, Bool.false_eq_true, ↓reduceIte] at once
          have skipped := skips (name, value) List.mem_cons_self known
          simp only [skipped, ↓reduceIte]
          exact inductionHypothesis fillsRest skipsRest once unseenRest
      | some slot =>
          simp only [known, Option.isSome_some, ↓reduceIte] at once
          obtain ⟨fresh, onceRest⟩ := List.nodup_cons.mp once
          obtain ⟨put, filled⟩ := fills (name, value) List.mem_cons_self slot known
          have new : name ∉ seen := unseen name List.mem_cons_self (by rw [known]; rfl)
          have unseenNext : ∀ other ∈ rest.map Prod.fst, (schema.slot? other).isSome = true →
              other ∉ name :: seen := by
            intro other among isField
            apply List.not_mem_cons_of_ne_of_not_mem
            · rintro rfl
              exact fresh (List.mem_filter.mpr ⟨among, isField⟩)
            · exact unseenRest other among isField
          have passed := inductionHypothesis fillsRest skipsRest onceRest unseenNext
          simp only [List.contains_eq_mem, new, decide_false, Bool.false_eq_true, ↓reduceIte,
            filled]
          exact passed

theorem fill_of_build
    {value? : String → Option Json} {slots : List (Slot σ)} {record result : σ}
    (built : build value? slots record = .ok result) :
    ∀ slot ∈ slots, ∀ value, value? slot.name = some value → ∃ put, slot.fill value = .ok put := by
  induction slots generalizing record with
  | nil =>
      intro slot impossible
      cases impossible
  | cons first rest inductionHypothesis =>
      rw [build] at built
      cases given : value? first.name with
      | none =>
          simp only [given] at built
          split at built
          · cases built
          · refine List.forall_mem_cons.mpr ⟨?_, inductionHypothesis built⟩
            intro value impossible
            rw [given] at impossible
            cases impossible
      | some content =>
          simp only [given] at built
          obtain ⟨put, filled, built⟩ := Except.bind_eq_ok_iff.mp built
          refine List.forall_mem_cons.mpr ⟨?_, inductionHypothesis built⟩
          intro value same
          rw [given] at same
          cases same
          exact ⟨put, filled⟩

/-- When all fields are filled from the members that are found, each member of a field fills it. -/
theorem fills_of_build
    {parts : List Part} {left foreign all : List (String × Json)} {record result : σ}
    (names : parts.map Part.name = schema.slots.map Slot.name)
    (once : (left.map Prod.fst).Nodup) (strange : ∀ member ∈ foreign, Foreign parts member)
    (order : all.Perm (left ++ foreign))
    (built : build (fun name => all.lookup name) schema.slots record = .ok result) :
    ∀ member ∈ all, ∀ slot, schema.slot? member.1 = some slot →
      ∃ put, slot.fill member.2 = .ok put := by
  intro member among slot isSlot
  have named : slot.name = member.1 := by simpa using List.find?_some isSlot
  have isField : slot ∈ schema.slots := List.mem_of_find?_eq_some isSlot
  have known : member.1 ∈ parts.map Part.name := by
    rw [names, ← named]
    exact List.mem_map_of_mem isField
  obtain ⟨part, isPart, partNamed⟩ := List.mem_map.mp known
  have present : (part.name, member.2) ∈ all := by
    rw [partNamed]
    exact among
  have found := lookup_of_known once strange order isPart present
  apply fill_of_build built slot isField member.2
  rw [named, ← partNamed]
  exact found

/-- A record is decoded from every variation of an object if its fields are filled whenever each
finds its own member or keeps its default. -/
theorem decode_of_varies
    {parts : List Part} {given : List (String × Json)} {json : Json} {result : σ}
    (varies : RecordVaries parts (record given) json)
    (names : parts.map Part.name = schema.slots.map Slot.name)
    (distinct : (parts.map Part.name).Nodup) (once : (given.map Prod.fst).Nodup)
    (builds : ∀ value?, Shows parts given value? →
      build value? schema.slots schema.defaults = .ok result) :
    schema.decode json = .ok result := by
  obtain ⟨members, left, foreign, all, same, trimmed, strange, order, rfl⟩ := varies
  obtain rfl := record_inj same
  have onceLeft : (left.map Prod.fst).Nodup := once.sublist trimmed.names_sublist
  have built := builds _ (shows_of_trimmed distinct once trimmed strange order)
  have known (name : String) : (schema.slot? name).isSome = true ↔ name ∈ parts.map Part.name := by
    rw [slot?_isSome_iff, names]
  have passed : schema.scan [] (keyed all) = .ok () := by
    apply scan_eq_ok
    · exact fills_of_build names onceLeft strange order built
    · intro member among unknown
      rcases List.mem_append.mp (order.mem_iff.mp among) with kept | unfamiliar
      · have named := trimmed.known _
          (trimmed.names_sublist.subset (List.mem_map_of_mem (f := Prod.fst) kept))
        have isField := (known _).mpr named
        rw [unknown] at isField
        cases isField
      · exact (strange member unfamiliar).2
    · exact nodup_known onceLeft strange order fun name isField => (known name).mp isField
    · intro name among isField
      exact List.not_mem_nil
  have looksUp : member? (keyed all) = fun name => all.lookup name := funext (lookup_some all)
  change schema.decodeMembers (keyed all) true = .ok result
  unfold decodeMembers
  rw [passed, looksUp]
  exact built

end Schema

/-! ## Lists -/

theorem decodeItems_of_varies
    {α : Type} {encode : α → Json} {decode : Decoder α} {item : Json → Json → Prop}
    {values : List α} {others : List Json}
    (varies : List.Forall₂ item (values.map encode) others)
    (each : ∀ value ∈ values, ∀ json, item (encode value) json → decode json = .ok value)
    (index : Nat) : decodeItems decode index others = .ok values := by
  induction values generalizing others index with
  | nil =>
      cases varies
      rfl
  | cons value rest inductionHypothesis =>
      obtain ⟨json, behind, itemVaries, restVaries, rfl⟩ := List.forall₂_cons_left_iff.mp varies
      have first := each value List.mem_cons_self json itemVaries
      have further := inductionHypothesis restVaries
        (fun value among => each value (List.mem_cons_of_mem _ among)) (index + 1)
      rw [decodeItems, first, further]
      rfl

theorem decodeList_of_varies
    {α : Type} {encode : α → Json} {decode : Decoder α} {item : Json → Json → Prop}
    {values : List α} {json : Json} (varies : ListVaries item (.list (values.map encode)) json)
    (each : ∀ value ∈ values, ∀ json, item (encode value) json → decode json = .ok value) :
    decodeList decode json = .ok values := by
  obtain ⟨items, others, same, rfl, itemsVary⟩ := varies
  injection same with same
  subst same
  have decoded := decodeItems_of_varies itemsVary each 0
  change (decodeItems decode 0 others >>= _) = _
  rw [decoded]
  rfl

/-! ## Filling fields -/

namespace Shows

variable {σ α : Type} {parts : List Part} {given : List (String × Json)}
  {value? : String → Option Json} {rest : List (Slot σ)} {record : σ} {name : String}
  {put : α → σ → σ}

theorem build_cons
    (shows : Shows parts given value?) {slot : Slot σ} {part : Part} {value : Json} {filled : σ → σ}
    (isPart : part ∈ parts) (named : slot.name = part.name)
    (written : given.lookup part.name = some value)
    (fills : ∀ varied, part.varies value varied → slot.fill varied = .ok filled)
    (missing : part.missing? = some value → slot.isRequired = false ∧ filled record = record) :
    Schema.build value? (slot :: rest) record = Schema.build value? rest (filled record) := by
  rw [Schema.build, named]
  rcases shows.found isPart written with ⟨varied, found, varies⟩ | ⟨absent, assumed⟩
  · simp only [found, fills varied varies]
    rfl
  · obtain ⟨optional, unchanged⟩ := missing assumed
    simp only [absent, optional, Bool.false_eq_true, ↓reduceIte, unchanged]

/-- A member that must be there. -/
theorem needed
    (shows : Shows parts given value?) {value : Json} {content : α} {decode : Decoder α}
    (isPart : Part.needed name ∈ parts) (written : given.lookup name = some value)
    (decodes : decode value = .ok content) :
    Schema.build value? (.required name decode put :: rest) record =
      Schema.build value? rest (put content record) := by
  apply shows.build_cons isPart rfl written
  · rintro varied rfl
    simp only [Slot.required, decodes]
    rfl
  · intro impossible
    cases impossible

/-- A member that was not given. -/
theorem leftOut
    (shows : Shows parts given value?) {part : Part} {decode : Decoder α} (isPart : part ∈ parts)
    (named : part.name = name) (unwritten : given.lookup name = none) :
    Schema.build value? (.optional name decode put :: rest) record =
      Schema.build value? rest record := by
  subst named
  rw [Schema.build]
  simp only [Slot.optional, shows.absent isPart unwritten, Bool.false_eq_true, ↓reduceIte]

/-- A text that is empty where it is missing. -/
theorem text
    (shows : Shows parts given value?) {text : String} {put : String → σ → σ}
    (isPart : Part.text name ∈ parts)
    (written : given.lookup name = some (.text text)) (blank : put "" record = record) :
    Schema.build value? (.optional name decodeText put :: rest) record =
      Schema.build value? rest (put text record) := by
  apply shows.build_cons isPart rfl written
  · rintro varied rfl
    rfl
  · intro assumed
    cases assumed
    exact ⟨rfl, blank⟩

/-- A value that is left out when there is none. -/
theorem option
    (shows : Shows parts given value?) {content? : Option α} {encode : α → Json}
    {decode : Decoder α} {put : Option α → σ → σ}
    (isPart : Part.optional name .null ∈ parts) (written : given.lookup name = content?.map encode)
    (decodes : ∀ content, content? = some content →
      decodeOption decode (encode content) = .ok (some content))
    (blank : put none record = record) :
    Schema.build value? (.optional name (decodeOption decode) put :: rest) record =
      Schema.build value? rest (put content? record) := by
  cases content? with
  | none =>
      rw [blank]
      exact shows.leftOut isPart rfl written
  | some content =>
      have decoded := decodes content rfl
      apply shows.build_cons isPart rfl written
      · rintro varied rfl
        simp only [Slot.optional, decoded]
        rfl
      · intro assumed
        -- `null` stands for no value, so it cannot be what was written for one.
        have null : encode content = .null := by
          injection assumed with assumed
          exact assumed.symm
        rw [null] at decoded
        cases decoded

/-- An array of objects that is empty where it is missing. -/
theorem items
    (shows : Shows parts given value?) {item : List Part} {values : List α} {encode : α → Json}
    {decode : Decoder α} {put : List α → σ → σ}
    (isPart : Part.items name item (some (.list [])) ∈ parts)
    (written : given.lookup name = some (.list (values.map encode)))
    (each : ∀ value ∈ values, ∀ json, RecordVaries item (encode value) json →
      decode json = .ok value)
    (blank : put [] record = record) :
    Schema.build value? (.optional name (decodeList decode) put :: rest) record =
      Schema.build value? rest (put values record) := by
  apply shows.build_cons isPart rfl written
  · intro varied varies
    simp only [Slot.optional, decodeList_of_varies varies each]
    rfl
  · intro assumed
    injection assumed with assumed
    injection assumed with assumed
    have empty : values = [] := List.map_eq_nil_iff.mp assumed.symm
    rw [empty]
    exact ⟨rfl, blank⟩

/-- An array of objects that must be there. -/
theorem neededItems
    (shows : Shows parts given value?) {item : List Part} {values : List α} {encode : α → Json}
    {decode : Decoder α} {put : List α → σ → σ} (isPart : Part.items name item none ∈ parts)
    (written : given.lookup name = some (.list (values.map encode)))
    (each : ∀ value ∈ values, ∀ json, RecordVaries item (encode value) json →
      decode json = .ok value) :
    Schema.build value? (.required name (decodeList decode) put :: rest) record =
      Schema.build value? rest (put values record) := by
  apply shows.build_cons isPart rfl written
  · intro varied varies
    simp only [Slot.required, decodeList_of_varies varies each]
    rfl
  · intro impossible
    cases impossible

end Shows

end PipelineRegistry.Json
