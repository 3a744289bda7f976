import PipelineRegistry.Proofs.PrintedTokens

/-!
# Printed values

A value that holds texts, integers of 64 bits, truth values and nulls only is read back from what
is printed for it. The machine of the reader comes from the first byte of a printed value to the
place where the value is complete, with the same containers open.
-/

namespace PipelineRegistry.Json

open PipelineRegistry.Text
open Percent (utf8 utf8_append utf8_cons)

/-! ## Plain values -/

mutual

/-- A whole value without floating point numbers, with integers of 64 bits only. -/
def IsPlain : Json → Prop
  | .null | .boolean _ | .text _ => True
  | .integer value => IsInt64 value
  | .array items ended => ended = true ∧ ArePlain items
  | .object members ended => ended = true ∧ ArePlainMembers members
  | .float _ | .unreadable | .broken => False

/-- Every item is plain. -/
def ArePlain : List Json → Prop
  | [] => True
  | item :: rest => IsPlain item ∧ ArePlain rest

/-- Every member has a key and a plain value. -/
def ArePlainMembers : List (Option String × Json) → Prop
  | [] => True
  | (key, value) :: rest => key.isSome = true ∧ IsPlain value ∧ ArePlainMembers rest

end

/-- Members that all have keys. -/
def keyed (members : List (String × Json)) : List (Option String × Json) :=
  members.map fun member => (some member.1, member.2)

theorem record_eq (members : List (String × Json)) :
    record members = .object (keyed members) true :=
  rfl

theorem isPlain_list
    {α : Type} {encode : α → Json} {values : List α}
    (plain : ∀ value ∈ values, (encode value).IsPlain) : (list (values.map encode)).IsPlain := by
  refine ⟨rfl, ?_⟩
  induction values with
  | nil => trivial
  | cons value rest inductionHypothesis =>
      obtain ⟨plainValue, plainRest⟩ := List.forall_mem_cons.mp plain
      exact ⟨plainValue, inductionHypothesis plainRest⟩

theorem isPlain_record
    {members : List (String × Json)} (plain : ∀ member ∈ members, member.2.IsPlain) :
    (record members).IsPlain := by
  refine ⟨rfl, ?_⟩
  induction members with
  | nil => trivial
  | cons member rest inductionHypothesis =>
      obtain ⟨plainMember, plainRest⟩ := List.forall_mem_cons.mp plain
      exact ⟨rfl, plainMember, inductionHypothesis plainRest⟩

/-! ## Steps of the machine -/

/-- What the machine gives from here on, with the rest of the text. -/
def Progress.Gives (rest : List UInt8) (result : Json × List UInt8) : Progress → Prop
  | .complete value => (value, rest) = result
  | .more stack expectation => readFrom stack expectation rest = result
  | .stuck => False

theorem dropWhile_of_token?
    {bytes : List UInt8} {result : Token × List UInt8} (found : token? bytes = some result) :
    bytes.dropWhile isBlankByte = bytes := by
  cases bytes with
  | nil => rfl
  | cons byte rest =>
      cases blank : isBlankByte byte with
      | false => simp only [List.dropWhile_cons, blank, Bool.false_eq_true, ↓reduceIte]
      | true =>
          simp only [isBlankByte, Bool.or_eq_true, beq_iff_eq] at blank
          rcases blank with ((rfl | rfl) | rfl) | rfl <;> cases found

theorem readFrom_of_token
    {stack : List Frame} {expectation : Expectation} {bytes rest : List UInt8} {token : Token}
    {result : Json × List UInt8} (found : token? bytes = some (token, rest))
    (gives : (advance stack expectation token).Gives rest result) :
    readFrom stack expectation bytes = result := by
  rw [readFrom, dropWhile_of_token? found]
  split
  · next none => rw [found] at none; contradiction
  · next other behind same =>
      rw [found] at same
      cases same
      split
      · next step => rw [step] at gives; exact gives
      · next step => rw [step] at gives; exact gives.elim
      · next step => rw [step] at gives; exact gives

theorem stops_cons {byte : UInt8} (rest : List UInt8)
    (stops : isDigitByte byte = false ∧ byte ≠ 0x2E ∧ byte ≠ 0x65 ∧ byte ≠ 0x45) :
    Stops (byte :: rest) := by
  intro other same
  cases same
  exact stops

/-! ## Whole values -/

/-- A value may start here. -/
inductive Expectation.Starts : Expectation → Prop
  | value : Starts .value
  | itemOrEnd : Starts .itemOrEnd

/-- A key may start here. -/
inductive Expectation.StartsKey : Expectation → Prop
  | key : StartsKey .key
  | keyOrEnd : StartsKey .keyOrEnd

/-- A single token that stands for a value. -/
theorem readFrom_scalar
    {expectation : Expectation} (starts : expectation.Starts)
    {stack : List Frame} {bytes rest : List UInt8} {token : Token} {value : Json}
    {result : Json × List UInt8} (found : token? bytes = some (token, rest))
    (stands : token = .scalar value ∨ ∃ text, token = .text (some text) ∧ value = .text text)
    (gives : (put value stack).Gives rest result) :
    readFrom stack expectation bytes = result := by
  apply readFrom_of_token found
  cases starts with
  | value => rcases stands with rfl | ⟨text, rfl, rfl⟩ <;> exact gives
  | itemOrEnd => rcases stands with rfl | ⟨text, rfl, rfl⟩ <;> exact gives

/-! ## Containers -/

/-- What is printed for the value is read to its end, and then the machine goes on behind it. -/
def ReadsBack (json : Json) : Prop :=
  ∀ {expectation : Expectation}, expectation.Starts →
    ∀ {stack : List Frame} {rest : List UInt8}, Stops rest →
      ∀ {result : Json × List UInt8}, (put json stack).Gives rest result →
        readFrom stack expectation (utf8 (printChars json) ++ rest) = result

/-- A key and its value are read to the end of the value. -/
theorem readFrom_member
    {value : Json} (readBack : value.ReadsBack) (key : String)
    {expectation : Expectation} (starts : expectation.StartsKey)
    {done : List (Option String × Json)} {stack : List Frame} {rest : List UInt8}
    (stops : Stops rest) {result : Json × List UInt8}
    (continued : readFrom (.members ((some key, value) :: done) :: stack) .separator rest =
      result) :
    readFrom (.members done :: stack) expectation
      (utf8 (printText key ++ ':' :: printChars value) ++ rest) = result := by
  have behindColon : readFrom (.member done (some key) :: stack) .value
      (utf8 (printChars value) ++ rest) = result :=
    readBack .value stops continued
  have behindKey : readFrom (.member done (some key) :: stack) .colon
      (0x3A :: (utf8 (printChars value) ++ rest)) = result :=
    readFrom_of_token rfl behindColon
  rw [utf8_append, utf8_cons, List.append_assoc, List.append_assoc]
  apply readFrom_of_token (token?_printText key _)
  cases starts with
  | key => exact behindKey
  | keyOrEnd => exact behindKey

theorem utf8_commaSeparated
    (first second : List Char) (more : List (List Char)) (rest : List UInt8) :
    utf8 (commaSeparated (first :: second :: more)) ++ rest =
      utf8 first ++ 0x2C :: (utf8 (commaSeparated (second :: more)) ++ rest) := by
  rw [commaSeparated, utf8_append, utf8_cons, List.append_assoc, List.append_assoc]
  · rfl
  · rintro ⟨⟩

theorem readFrom_items
    {items : List Json} (readBack : ∀ item ∈ items, item.ReadsBack) (filled : items ≠ [])
    {expectation : Expectation} (starts : expectation.Starts) (done : List Json)
    {stack : List Frame} {rest : List UInt8} {result : Json × List UInt8}
    (gives : (put (.array (done.reverse ++ items) true) stack).Gives rest result) :
    readFrom (.items done :: stack) expectation
      (utf8 (commaSeparated (printItems items)) ++ 0x5D :: rest) = result := by
  induction items generalizing done expectation with
  | nil => exact absurd rfl filled
  | cons first others inductionHypothesis =>
      obtain ⟨readFirst, readOthers⟩ := List.forall_mem_cons.mp readBack
      have givesNext : (put (.array ((first :: done).reverse ++ others) true) stack).Gives rest
          result := by
        rw [List.reverse_cons, List.append_assoc, List.singleton_append]
        exact gives
      cases others with
      | nil =>
          have closed : readFrom (.items (first :: done) :: stack) .separator (0x5D :: rest) =
              result := by
            rw [List.append_nil] at givesNext
            exact readFrom_of_token rfl givesNext
          exact readFirst starts (stops_cons rest (by decide)) closed
      | cons second more =>
          have continued := inductionHypothesis readOthers (List.cons_ne_nil _ _) .value
            (first :: done) givesNext
          rw [printItems, printItems, utf8_commaSeparated]
          exact readFirst starts (stops_cons _ (by decide)) (readFrom_of_token rfl continued)

theorem readFrom_members
    {members : List (String × Json)} (readBack : ∀ member ∈ members, member.2.ReadsBack)
    (filled : members ≠ []) {expectation : Expectation} (starts : expectation.StartsKey)
    (done : List (Option String × Json)) {stack : List Frame} {rest : List UInt8}
    {result : Json × List UInt8}
    (gives : (put (.object (done.reverse ++ keyed members) true) stack).Gives rest result) :
    readFrom (.members done :: stack) expectation
      (utf8 (commaSeparated (printMembers (keyed members))) ++ 0x7D :: rest) = result := by
  induction members generalizing done expectation with
  | nil => exact absurd rfl filled
  | cons first others inductionHypothesis =>
      obtain ⟨key, value⟩ := first
      obtain ⟨readFirst, readOthers⟩ := List.forall_mem_cons.mp readBack
      have givesNext : (put (.object (((some key, value) :: done).reverse ++ keyed others) true)
          stack).Gives rest result := by
        rw [List.reverse_cons, List.append_assoc, List.singleton_append]
        exact gives
      cases others with
      | nil =>
          have closed : readFrom (.members ((some key, value) :: done) :: stack) .separator
              (0x7D :: rest) = result := by
            rw [keyed, List.map_nil, List.append_nil] at givesNext
            exact readFrom_of_token rfl givesNext
          exact readFrom_member readFirst key starts (stops_cons rest (by decide)) closed
      | cons second more =>
          have continued := inductionHypothesis readOthers (List.cons_ne_nil _ _) .key
            ((some key, value) :: done) givesNext
          unfold keyed at continued ⊢
          rw [List.map_cons, List.map_cons, printMembers, printMembers, utf8_commaSeparated]
          exact readFrom_member readFirst key starts (stops_cons _ (by decide))
            (readFrom_of_token rfl continued)

theorem ReadsBack.list {items : List Json} (readBack : ∀ item ∈ items, item.ReadsBack) :
    (Json.array items true).ReadsBack := by
  intro expectation starts stack rest stops result gives
  have opened : readFrom (.items [] :: stack) .itemOrEnd
      (utf8 (commaSeparated (printItems items)) ++ 0x5D :: rest) = result := by
    cases items with
    | nil => exact readFrom_of_token rfl gives
    | cons first others =>
        exact readFrom_items readBack (List.cons_ne_nil _ _) .itemOrEnd [] gives
  have bytes : utf8 (printChars (.array items true)) ++ rest =
      0x5B :: (utf8 (commaSeparated (printItems items)) ++ 0x5D :: rest) := by
    rw [printChars, utf8_cons, utf8_append, List.append_assoc, List.append_assoc]
    rfl
  rw [bytes]
  apply readFrom_of_token rfl
  cases starts with
  | value => exact opened
  | itemOrEnd => exact opened

theorem ReadsBack.record
    {members : List (String × Json)} (readBack : ∀ member ∈ members, member.2.ReadsBack) :
    (Json.record members).ReadsBack := by
  intro expectation starts stack rest stops result gives
  have opened : readFrom (.members [] :: stack) .keyOrEnd
      (utf8 (commaSeparated (printMembers (keyed members))) ++ 0x7D :: rest) = result := by
    cases members with
    | nil => exact readFrom_of_token rfl gives
    | cons first others =>
        exact readFrom_members readBack (List.cons_ne_nil _ _) .keyOrEnd [] gives
  have bytes : utf8 (printChars (.object (keyed members) true)) ++ rest =
      0x7B :: (utf8 (commaSeparated (printMembers (keyed members))) ++ 0x7D :: rest) := by
    rw [printChars, utf8_cons, utf8_append, List.append_assoc, List.append_assoc]
    rfl
  rw [record_eq, bytes]
  apply readFrom_of_token rfl
  cases starts with
  | value => exact opened
  | itemOrEnd => exact opened

/-! ## Plain values are read back -/

mutual

theorem IsPlain.readsBack {json : Json} (plain : json.IsPlain) : json.ReadsBack := by
  cases json with
  | null =>
      intro expectation starts stack rest stops result gives
      exact readFrom_scalar starts (token?_null rest) (Or.inl rfl) gives
  | boolean value =>
      intro expectation starts stack rest stops result gives
      exact readFrom_scalar starts (token?_boolean value rest) (Or.inl rfl) gives
  | integer value =>
      intro expectation starts stack rest stops result gives
      exact readFrom_scalar starts (token?_ofInt plain stops) (Or.inl rfl) gives
  | text value =>
      intro expectation starts stack rest stops result gives
      exact readFrom_scalar starts (token?_printText value rest) (Or.inr ⟨value, rfl, rfl⟩) gives
  | array items ended =>
      obtain ⟨rfl, plainItems⟩ := plain
      exact ReadsBack.list (ArePlain.readBack plainItems)
  | object members ended =>
      obtain ⟨rfl, plainMembers⟩ := plain
      obtain ⟨others, rfl, readBack⟩ := ArePlainMembers.readBack plainMembers
      exact ReadsBack.record readBack
  | float _ | unreadable | broken => exact plain.elim

theorem ArePlain.readBack {items : List Json} (plain : ArePlain items) :
    ∀ item ∈ items, item.ReadsBack := by
  cases items with
  | nil =>
      intro item impossible
      cases impossible
  | cons first others =>
      obtain ⟨plainFirst, plainOthers⟩ := plain
      exact List.forall_mem_cons.mpr ⟨plainFirst.readsBack, ArePlain.readBack plainOthers⟩

theorem ArePlainMembers.readBack
    {members : List (Option String × Json)} (plain : ArePlainMembers members) :
    ∃ others, members = keyed others ∧ ∀ member ∈ others, member.2.ReadsBack := by
  cases members with
  | nil =>
      refine ⟨[], rfl, ?_⟩
      intro member impossible
      cases impossible
  | cons first rest =>
      obtain ⟨key?, value⟩ := first
      obtain ⟨hasKey, plainValue, plainRest⟩ := plain
      obtain ⟨key, rfl⟩ := Option.isSome_iff_exists.mp hasKey
      obtain ⟨others, rfl, readOthers⟩ := ArePlainMembers.readBack plainRest
      exact ⟨(key, value) :: others, rfl,
        List.forall_mem_cons.mpr ⟨plainValue.readsBack, readOthers⟩⟩

end

/-- A plain value is read back from the text that is printed for it. -/
theorem read_print {json : Json} (plain : json.IsPlain) :
    read (utf8 (print json).toList) = (json, []) := by
  have whole : readFrom [] .value (utf8 (printChars json) ++ []) = (json, []) :=
    plain.readsBack .value stops_nil rfl
  rw [List.append_nil] at whole
  rw [print, String.toList_ofList]
  exact whole

end PipelineRegistry.Json
