import PipelineRegistry.Proofs.PrintedTokens
import PipelineRegistry.Proofs.WordArithmetic

/-!
# Numerals in words

A numeral is read byte by byte into a word of 64 bits, with or without a sign. Every digit costs one
checked multiplication by ten and one checked addition, or subtraction behind a minus sign. The main
statements are `accumulate_digits`, that the operations fail exactly where the number lies outside
the words, `all_isDigitByte_utf8`, that looking at bytes is as good as looking at characters, and
`read_numeral` with the readings behind a sign, what comes of whole texts.
-/

namespace PipelineRegistry

open PipelineRegistry.Text
open Percent (utf8 utf8_cons)
open Json (digit_ascii)

/-! ## Numerals and bytes -/

theorem Text.Decimal.isDigit_iff {c : Char} : isDigit c = true ↔ '0' ≤ c ∧ c ≤ '9' := by
  unfold isDigit
  rw [Bool.and_eq_true, decide_eq_true_eq, decide_eq_true_eq]
  rfl

theorem Text.Decimal.isNumeral_iff {text : List Char} :
    isNumeral text = true ↔ text ≠ [] ∧ text.all isDigit = true := by
  cases text <;> simp [isNumeral]

theorem Text.Decimal.isNumeral_digits (n : Nat) : isNumeral (digits n) = true := by
  rw [Decimal.isNumeral_iff, List.all_eq_true]
  exact ⟨digits_ne_nil n, fun c member => isDigit_of_mem_digits member⟩

theorem Text.Decimal.natural?_eq (limit : Nat) (text : List Char) :
    natural? limit text =
      if isNumeral text = true ∧ value text ≤ limit then some (value text) else none := by
  unfold natural? bounded?
  by_cases numeral : isNumeral text = true
  · rw [if_pos numeral, boundedFrom?_eq limit 0 (Nat.zero_le limit)]
    simp only [value, numeral, true_and]
  · rw [if_neg numeral, if_neg fun both => numeral both.1]

theorem Text.Percent.utf8_eq_nil_iff {text : List Char} : utf8 text = [] ↔ text = [] := by
  cases text with
  | nil => exact ⟨fun _ => rfl, fun _ => rfl⟩
  | cons c rest =>
      rw [utf8_cons, List.append_eq_nil_iff]
      constructor
      · rintro ⟨impossible, -⟩
        exact absurd impossible String.utf8EncodeChar_ne_nil
      · intro impossible
        contradiction

theorem Text.Percent.utf8_toList (text : String) :
    utf8 text.toList = text.toUTF8.data.toList := by
  have bytes : text.toList.utf8Encode = text.toUTF8 := String.utf8Encode_toList
  rw [← bytes]
  simp [utf8, List.utf8Encode]

/-! ## Words as integers -/

/-- Words of 64 bits as the integers between two bounds, with operations that fail where they
overflow. -/
structure WordKind where
  least : Int
  greatest : Int
  value : BitVec 64 → Int
  times? : BitVec 64 → BitVec 64 → Option (BitVec 64)
  plus? : BitVec 64 → BitVec 64 → Option (BitVec 64)
  minus? : BitVec 64 → BitVec 64 → Option (BitVec 64)
  least_le : least ≤ 0
  le_greatest : 0 ≤ greatest
  exists_value_iff : ∀ {x}, (∃ word, value word = x) ↔ least ≤ x ∧ x ≤ greatest
  value_ofNat : ∀ {n}, n ≤ 10 → value (BitVec.ofNat 64 n) = n
  times?_eq_some_iff : ∀ {left right word},
    times? left right = some word ↔ value word = value left * value right
  plus?_eq_some_iff : ∀ {left right word},
    plus? left right = some word ↔ value word = value left + value right
  minus?_eq_some_iff : ∀ {left right word},
    minus? left right = some word ↔ value word = value left - value right

namespace WordKind

/-- Words without a sign. -/
def unsigned : WordKind where
  least := 0
  greatest := 2 ^ 64 - 1
  value word := word.toNat
  times? := Word.times?
  plus? := Word.plus?
  minus? := Word.minus?
  least_le := Int.le_refl 0
  le_greatest := by decide
  exists_value_iff := by
    intro x
    constructor
    · rintro ⟨word, rfl⟩
      have bound : word.toNat < 2 ^ 64 := word.isLt
      omega
    · rintro ⟨low, high⟩
      refine ⟨BitVec.ofNat 64 x.toNat, ?_⟩
      rw [BitVec.toNat_ofNat, Nat.mod_eq_of_lt (by omega)]
      exact Int.toNat_of_nonneg low
  value_ofNat := by
    intro n small
    rw [BitVec.toNat_ofNat, Nat.mod_eq_of_lt (by omega)]
  times?_eq_some_iff := by
    intro left right word
    rw [Word.times?_eq_some_iff]
    norm_cast
  plus?_eq_some_iff := by
    intro left right word
    rw [Word.plus?_eq_some_iff]
    norm_cast
  minus?_eq_some_iff := Word.minus?_eq_some_iff

/-- Words whose first bit is a sign. -/
def signed : WordKind where
  least := -2 ^ 63
  greatest := 2 ^ 63 - 1
  value := BitVec.toInt
  times? := Word.signedTimes?
  plus? := Word.signedPlus?
  minus? := Word.signedMinus?
  least_le := by decide
  le_greatest := by decide
  exists_value_iff := by
    intro x
    constructor
    · rintro ⟨word, rfl⟩
      have low := BitVec.le_toInt word
      have high := BitVec.toInt_lt (x := word)
      omega
    · rintro ⟨low, high⟩
      exact ⟨BitVec.ofInt 64 x, BitVec.toInt_ofInt_eq_self (by decide) (by omega) (by omega)⟩
  value_ofNat := by
    intro n small
    have fits : n < 2 ^ 64 := by omega
    rw [BitVec.toInt_eq_toNat_of_lt] <;> rw [BitVec.toNat_ofNat, Nat.mod_eq_of_lt fits]
    omega
  times?_eq_some_iff := Word.signedTimes?_eq_some_iff
  plus?_eq_some_iff := Word.signedPlus?_eq_some_iff
  minus?_eq_some_iff := Word.signedMinus?_eq_some_iff

/-- An integer is the value of a word. -/
def Holds (kind : WordKind) (x : Int) : Prop :=
  kind.least ≤ x ∧ x ≤ kind.greatest

instance (kind : WordKind) (x : Int) : Decidable (kind.Holds x) :=
  inferInstanceAs (Decidable (_ ∧ _))

theorem holds_value (kind : WordKind) (word : BitVec 64) : kind.Holds (kind.value word) :=
  kind.exists_value_iff.mp ⟨word, rfl⟩

/-- What lies between zero and a value is a value. -/
theorem Holds.of_le
    {kind : WordKind} {sign : Int} (unit : sign = 1 ∨ sign = -1) {smaller larger : Nat}
    (ordered : smaller ≤ larger) (held : kind.Holds (sign * larger)) :
    kind.Holds (sign * smaller) := by
  have least := kind.least_le
  have greatest := kind.le_greatest
  unfold Holds at *
  rcases unit with rfl | rfl <;> omega

end WordKind

/-! ## Reading bytes -/

/-- Why bytes are not read as a word. -/
inductive NumeralError
  | empty
  | invalidDigit
  | aboveGreatest
  | belowLeast
  deriving DecidableEq, Repr

/-- The bytes of the ten digits. -/
def isDigitByte (byte : UInt8) : Bool :=
  0x30 ≤ byte && byte ≤ 0x39

/-- The word of a digit. -/
def digitWord? (byte : UInt8) : Option (BitVec 64) :=
  if isDigitByte byte then some (BitVec.ofNat 64 (byte.toNat - 0x30)) else none

namespace WordKind

/-- Ten times a word, and a digit joined to it. -/
def push? (kind : WordKind) (join? : BitVec 64 → BitVec 64 → Option (BitVec 64))
    (read digit : BitVec 64) : Option (BitVec 64) :=
  (kind.times? read 10#64).bind fun shifted => join? shifted digit

/-- Reads digits behind what has been read. -/
def accumulate (kind : WordKind) (join? : BitVec 64 → BitVec 64 → Option (BitVec 64))
    (outside : NumeralError) (read : BitVec 64) :
    List UInt8 → Except NumeralError (BitVec 64)
  | [] => .ok read
  | byte :: rest =>
      match digitWord? byte with
      | none => .error .invalidDigit
      | some digit =>
          match kind.push? join? read digit with
          | none => .error outside
          | some next => kind.accumulate join? outside next rest

/-- Reads digits from zero on. There must be one. -/
def readDigits (kind : WordKind) (join? : BitVec 64 → BitVec 64 → Option (BitVec 64))
    (outside : NumeralError) (bytes : List UInt8) : Except NumeralError (BitVec 64) :=
  if bytes = [] then .error .invalidDigit else kind.accumulate join? outside 0#64 bytes

/-- Reads the whole of some bytes. A minus sign is one only for words that can be negative. -/
def readWord (kind : WordKind) : List UInt8 → Except NumeralError (BitVec 64)
  | [] => .error .empty
  | first :: rest =>
      if first = 0x2B then kind.readDigits kind.plus? .aboveGreatest rest
      else if first = 0x2D ∧ kind.least < 0 then kind.readDigits kind.minus? .belowLeast rest
      else kind.readDigits kind.plus? .aboveGreatest (first :: rest)

/-- The integer that some bytes are read as. -/
def read (kind : WordKind) (bytes : List UInt8) : Except NumeralError Int :=
  (kind.readWord bytes).map kind.value

end WordKind

/-! ## Bytes and characters -/

theorem isDigitByte_ofNat_toNat {c : Char} (ascii : c.toNat < 0x80) :
    isDigitByte (UInt8.ofNat c.toNat) = Decimal.isDigit c := by
  have same : (UInt8.ofNat c.toNat).toNat = c.toNat :=
    UInt8.toNat_ofNat_of_lt' (Nat.lt_trans ascii (by decide))
  unfold isDigitByte Decimal.isDigit
  simp only [UInt8.le_iff_toNat_le, same]
  rfl

theorem utf8EncodeChar_of_wide {c : Char} (wide : 0x80 ≤ c.toNat) :
    ∃ byte rest, String.utf8EncodeChar c = byte :: rest ∧ 0x80 ≤ byte.toNat := by
  have filled : String.utf8EncodeChar c ≠ [] := String.utf8EncodeChar_ne_nil
  obtain ⟨byte, rest, bytes⟩ := List.exists_cons_of_ne_nil filled
  refine ⟨byte, rest, bytes, Percent.le_of_mem_utf8EncodeChar wide ?_⟩
  rw [bytes]
  exact List.mem_cons_self

theorem all_isDigitByte_utf8EncodeChar (c : Char) :
    (String.utf8EncodeChar c).all isDigitByte = Decimal.isDigit c := by
  by_cases ascii : c.toNat < 0x80
  · rw [Percent.utf8EncodeChar_of_ascii ascii, List.all_cons, List.all_nil, Bool.and_true,
      isDigitByte_ofNat_toNat ascii]
  · have wide : 0x80 ≤ c.toNat := Nat.le_of_not_lt ascii
    obtain ⟨byte, rest, bytes, large⟩ := utf8EncodeChar_of_wide wide
    have strangeByte : isDigitByte byte = false := by
      have beyond : ¬ byte ≤ 0x39 := by
        rw [UInt8.le_iff_toNat_le]
        exact Nat.not_le_of_lt (Nat.lt_of_lt_of_le (by decide) large)
      rw [isDigitByte, decide_eq_false beyond, Bool.and_false]
    have strange : Decimal.isDigit c = false := by
      have beyond : ¬ c.toNat ≤ '9'.toNat :=
        Nat.not_le_of_lt (Nat.lt_of_lt_of_le (by decide) wide)
      rw [Decimal.isDigit, decide_eq_false beyond, Bool.and_false]
    rw [bytes, List.all_cons, strangeByte, Bool.false_and, strange]

theorem all_isDigitByte_utf8 (text : List Char) :
    (utf8 text).all isDigitByte = text.all Decimal.isDigit := by
  induction text with
  | nil => rfl
  | cons c rest inductionHypothesis =>
      rw [utf8_cons, List.all_append, all_isDigitByte_utf8EncodeChar, inductionHypothesis,
        List.all_cons]

theorem utf8_digit {c : Char} (digit : Decimal.isDigit c = true) (rest : List Char) :
    utf8 (c :: rest) = UInt8.ofNat c.toNat :: utf8 rest := by
  have bounds := digit_ascii digit
  rw [utf8_cons, Percent.utf8EncodeChar_of_ascii (by omega), List.singleton_append]

theorem digitWord?_ofNat {c : Char} (digit : Decimal.isDigit c = true) :
    digitWord? (UInt8.ofNat c.toNat) = some (BitVec.ofNat 64 (Decimal.digitValue c)) := by
  obtain ⟨-, high⟩ := digit_ascii digit
  have ascii : c.toNat < 0x80 := by omega
  have same : (UInt8.ofNat c.toNat).toNat = c.toNat :=
    UInt8.toNat_ofNat_of_lt' (Nat.lt_trans ascii (by decide))
  unfold digitWord?
  rw [isDigitByte_ofNat_toNat ascii, if_pos digit, same]
  rfl

/-! ## What is read -/

namespace WordKind

/-- Digits are joined to a word with a sign: one where they are added, and minus one where they are
taken away. -/
structure Joins (kind : WordKind) (sign : Int)
    (join? : BitVec 64 → BitVec 64 → Option (BitVec 64)) : Prop where
  unit : sign = 1 ∨ sign = -1
  eq_some_iff : ∀ {left right word},
    join? left right = some word ↔ kind.value word = kind.value left + sign * kind.value right

theorem joins_plus (kind : WordKind) : kind.Joins 1 kind.plus? where
  unit := Or.inl rfl
  eq_some_iff := by
    intro left right word
    rw [plus?_eq_some_iff, Int.one_mul]

theorem joins_minus (kind : WordKind) : kind.Joins (-1) kind.minus? where
  unit := Or.inr rfl
  eq_some_iff := by
    intro left right word
    rw [minus?_eq_some_iff, Int.neg_one_mul, Int.sub_eq_add_neg]

variable {kind : WordKind} {join? : BitVec 64 → BitVec 64 → Option (BitVec 64)}
  {sign : Int} {outside : NumeralError}

/-- The product alone fits wherever the joined word does. -/
theorem push?_eq_some_iff
    (joins : kind.Joins sign join?)
    {read digit next : BitVec 64} {size added : Nat}
    (readValue : kind.value read = sign * size) (digitValue : kind.value digit = added) :
    kind.push? join? read digit = some next ↔
      kind.value next = sign * ((size * 10 + added : Nat) : Int) := by
  have ten : kind.value 10#64 = 10 := kind.value_ofNat (n := 10) (by decide)
  have joined : sign * ((size * 10 + added : Nat) : Int) =
      sign * ((size * 10 : Nat) : Int) + sign * added := by
    push_cast
    ring
  have multiplied : kind.value read * kind.value 10#64 = sign * ((size * 10 : Nat) : Int) := by
    rw [readValue, ten]
    push_cast
    ring
  unfold push?
  rw [Option.bind_eq_some_iff]
  constructor
  · rintro ⟨shifted, times, plus⟩
    rw [times?_eq_some_iff, multiplied] at times
    rw [joins.eq_some_iff, times, digitValue] at plus
    rw [plus, joined]
  · intro whole
    have held : kind.Holds (sign * ((size * 10 : Nat) : Int)) := by
      have final := kind.holds_value next
      rw [whole] at final
      exact final.of_le joins.unit (Nat.le_add_right _ _)
    obtain ⟨shifted, shiftedValue⟩ := kind.exists_value_iff.mpr held
    refine ⟨shifted, ?_, ?_⟩
    · rw [times?_eq_some_iff, multiplied, shiftedValue]
    · rw [joins.eq_some_iff, shiftedValue, digitValue, whole, joined]

/-- Digits are read exactly if the number is a value, and else it lies outside. -/
theorem accumulate_digits
    (joins : kind.Joins sign join?)
    {numeral : List Char} (digits : numeral.all Decimal.isDigit = true)
    {read : BitVec 64} {size : Nat} (readValue : kind.value read = sign * size) :
    (kind.accumulate join? outside read (utf8 numeral)).map kind.value =
      if kind.Holds (sign * Decimal.valueFrom size numeral) then
        .ok (sign * Decimal.valueFrom size numeral)
      else .error outside := by
  induction numeral generalizing read size with
  | nil =>
      have held : kind.Holds (sign * Decimal.valueFrom size []) := by
        have final := kind.holds_value read
        rwa [readValue] at final
      rw [if_pos held]
      exact congrArg Except.ok readValue
  | cons c rest inductionHypothesis =>
      rw [List.all_cons, Bool.and_eq_true] at digits
      obtain ⟨digit, others⟩ := digits
      have bounds := digit_ascii digit
      have small : Decimal.digitValue c ≤ 10 := by
        have zero : '0'.toNat = 0x30 := rfl
        unfold Decimal.digitValue
        omega
      have pushed (next : BitVec 64) :
          kind.push? join? read (BitVec.ofNat 64 (Decimal.digitValue c)) = some next ↔
            kind.value next = sign * ((size * 10 + Decimal.digitValue c : Nat) : Int) :=
        push?_eq_some_iff joins readValue (kind.value_ofNat small)
      rw [utf8_digit digit, Decimal.valueFrom_cons]
      cases found : kind.push? join? read (BitVec.ofNat 64 (Decimal.digitValue c)) with
      | none =>
          -- Further digits only lead further away from zero.
          have beyond :
              ¬ kind.Holds (sign * Decimal.valueFrom (size * 10 + Decimal.digitValue c) rest) := by
            intro held
            have sooner := held.of_le joins.unit (Decimal.le_valueFrom _ rest)
            obtain ⟨next, value⟩ := kind.exists_value_iff.mpr sooner
            rw [(pushed next).mpr value] at found
            contradiction
          simp only [accumulate, digitWord?_ofNat digit, found, if_neg beyond]
          rfl
      | some next =>
          simp only [accumulate, digitWord?_ofNat digit, found]
          exact inductionHypothesis others ((pushed next).mp found)

/-- Only digits are read. -/
theorem all_isDigitByte_of_accumulate
    {read word : BitVec 64} {bytes : List UInt8}
    (accepted : kind.accumulate join? outside read bytes = .ok word) :
    bytes.all isDigitByte = true := by
  induction bytes generalizing read with
  | nil => rfl
  | cons byte rest inductionHypothesis =>
      rw [accumulate] at accepted
      cases digit : digitWord? byte with
      | none =>
          rw [digit] at accepted
          contradiction
      | some value =>
          rw [digit] at accepted
          have isDigit : isDigitByte byte = true := by
            by_contra strange
            rw [digitWord?, if_neg strange] at digit
            contradiction
          cases pushed : kind.push? join? read value with
          | none =>
              simp only [pushed] at accepted
              contradiction
          | some next =>
              simp only [pushed] at accepted
              rw [List.all_cons, isDigit, inductionHypothesis accepted, Bool.and_true]

theorem map_readDigits
    (joins : kind.Joins sign join?)
    {numeral : List Char} (isNumeral : Decimal.isNumeral numeral = true) :
    (kind.readDigits join? outside (utf8 numeral)).map kind.value =
      if kind.Holds (sign * Decimal.value numeral) then .ok (sign * Decimal.value numeral)
      else .error outside := by
  obtain ⟨filled, digits⟩ := Decimal.isNumeral_iff.mp isNumeral
  have zero : kind.value 0#64 = sign * ((0 : Nat) : Int) := by
    rw [Int.natCast_zero, Int.mul_zero]
    exact kind.value_ofNat (n := 0) (by decide)
  unfold readDigits
  rw [if_neg fun empty => filled (Percent.utf8_eq_nil_iff.mp empty)]
  exact accumulate_digits joins digits zero

theorem isNumeral_of_readDigits
    {text : List Char} {word : BitVec 64}
    (accepted : kind.readDigits join? outside (utf8 text) = .ok word) :
    Decimal.isNumeral text = true := by
  unfold readDigits at accepted
  by_cases empty : utf8 text = []
  · rw [if_pos empty] at accepted
    contradiction
  · rw [if_neg empty] at accepted
    have digits := all_isDigitByte_of_accumulate accepted
    rw [all_isDigitByte_utf8] at digits
    exact Decimal.isNumeral_iff.mpr ⟨fun none => empty (Percent.utf8_eq_nil_iff.mpr none), digits⟩

/-- The integer of a numeral behind a sign, if it is a value. -/
def signedValue? (kind : WordKind) (sign : Int) (text : List Char) : Option Int :=
  if Decimal.isNumeral text = true ∧ kind.Holds (sign * Decimal.value text) then
    some (sign * Decimal.value text)
  else none

theorem toOption_readDigits
    (joins : kind.Joins sign join?)
    (text : List Char) :
    ((kind.readDigits join? outside (utf8 text)).map kind.value).toOption =
      kind.signedValue? sign text := by
  unfold signedValue?
  by_cases isNumeral : Decimal.isNumeral text = true
  · rw [map_readDigits joins isNumeral]
    by_cases held : kind.Holds (sign * Decimal.value text)
    · rw [if_pos held, if_pos ⟨isNumeral, held⟩]
      rfl
    · rw [if_neg held, if_neg fun both => held both.2]
      rfl
  · rw [if_neg fun both => isNumeral both.1]
    cases accepted : kind.readDigits join? outside (utf8 text) with
    | error reason => rfl
    | ok word => exact absurd (isNumeral_of_readDigits accepted) isNumeral

end WordKind

/-! ## Signs -/

/-- An ASCII byte at the start of a text is the character that it starts with. -/
theorem toNat_of_utf8_eq_cons
    {c : Char} {rest : List Char} {byte : UInt8} {others : List UInt8}
    (bytes : utf8 (c :: rest) = byte :: others) (ascii : byte.toNat < 0x80) :
    c.toNat = byte.toNat := by
  rw [utf8_cons] at bytes
  by_cases narrow : c.toNat < 0x80
  · rw [Percent.utf8EncodeChar_of_ascii narrow, List.singleton_append] at bytes
    injection bytes with first _
    rw [← first, UInt8.toNat_ofNat_of_lt' (Nat.lt_trans narrow (by decide))]
  · obtain ⟨first, tail, encoded, wide⟩ := utf8EncodeChar_of_wide (Nat.le_of_not_lt narrow)
    rw [encoded, List.cons_append] at bytes
    injection bytes with same _
    rw [same] at wide
    omega

namespace WordKind

theorem toOption_read_plus (kind : WordKind) (text : List Char) :
    (kind.read (utf8 ('+' :: text))).toOption = kind.signedValue? 1 text := by
  have bytes : utf8 ('+' :: text) = 0x2B :: utf8 text := rfl
  unfold read
  rw [bytes, readWord, if_pos rfl]
  exact toOption_readDigits kind.joins_plus text

theorem toOption_read_minus
    {kind : WordKind} (negative : kind.least < 0) (text : List Char) :
    (kind.read (utf8 ('-' :: text))).toOption = kind.signedValue? (-1) text := by
  have bytes : utf8 ('-' :: text) = 0x2D :: utf8 text := rfl
  unfold read
  rw [bytes, readWord, if_neg (by decide), if_pos ⟨rfl, negative⟩]
  exact toOption_readDigits kind.joins_minus text

/-- Without a sign the whole text is read as digits. -/
theorem readWord_unsigned
    (kind : WordKind) {c : Char} (noPlus : c ≠ '+') (noMinus : c ≠ '-') (rest : List Char) :
    kind.readWord (utf8 (c :: rest)) =
      kind.readDigits kind.plus? .aboveGreatest (utf8 (c :: rest)) := by
  have filled : utf8 (c :: rest) ≠ [] := fun empty => by
    have impossible := Percent.utf8_eq_nil_iff.mp empty
    contradiction
  obtain ⟨byte, others, bytes⟩ := List.exists_cons_of_ne_nil filled
  have plusDiffers : byte ≠ 0x2B := by
    rintro rfl
    exact noPlus (Char.toNat_inj.mp (toNat_of_utf8_eq_cons bytes (by decide)))
  have minusDiffers : byte ≠ 0x2D := by
    rintro rfl
    exact noMinus (Char.toNat_inj.mp (toNat_of_utf8_eq_cons bytes (by decide)))
  rw [bytes, readWord, if_neg plusDiffers, if_neg fun both => minusDiffers both.1]

theorem toOption_read_unsigned
    (kind : WordKind) {text : List Char}
    (noSign : ∀ c ∈ text.head?, c ≠ '+' ∧ c ≠ '-') :
    (kind.read (utf8 text)).toOption = kind.signedValue? 1 text := by
  cases text with
  | nil => rfl
  | cons c rest =>
      obtain ⟨noPlus, noMinus⟩ := noSign c rfl
      unfold read
      rw [readWord_unsigned kind noPlus noMinus]
      exact toOption_readDigits kind.joins_plus (c :: rest)

/-- A numeral starts with a digit and not with a sign. -/
theorem noSign_of_isNumeral
    {numeral : List Char} (isNumeral : Decimal.isNumeral numeral = true) :
    ∀ c ∈ numeral.head?, c ≠ '+' ∧ c ≠ '-' := by
  intro c first
  have member : c ∈ numeral := List.mem_of_mem_head? first
  have digit := List.all_eq_true.mp (Decimal.isNumeral_iff.mp isNumeral).2 c member
  constructor
  · rintro rfl
    contradiction
  · rintro rfl
    contradiction

/-- A numeral without a sign is read exactly up to the greatest value. -/
theorem read_numeral
    (kind : WordKind) {numeral : List Char} (isNumeral : Decimal.isNumeral numeral = true) :
    kind.read (utf8 numeral) =
      if (Decimal.value numeral : Int) ≤ kind.greatest then .ok (Decimal.value numeral : Int)
      else .error .aboveGreatest := by
  have noSign := noSign_of_isNumeral isNumeral
  have held : kind.Holds (Decimal.value numeral) ↔
      (Decimal.value numeral : Int) ≤ kind.greatest := by
    have least := kind.least_le
    unfold Holds
    omega
  cases numeral with
  | nil => contradiction
  | cons c rest =>
      obtain ⟨noPlus, noMinus⟩ := noSign c rfl
      unfold read
      rw [readWord_unsigned kind noPlus noMinus, map_readDigits kind.joins_plus isNumeral]
      simp only [Int.one_mul, held]

end WordKind

end PipelineRegistry
