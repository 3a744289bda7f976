import PipelineRegistry.Json.Decode
import PipelineRegistry.Json.Printer

/-!
# Printed tokens

The tokens that are printed are read back: a text between its quotes with every escape, and an
integer that fits 64 bits, if what is behind it does not go on with the number.
-/

namespace PipelineRegistry

open PipelineRegistry.Text

/-! ## UTF-8 -/

namespace Text.Percent

theorem utf8_append (left right : List Char) : utf8 (left ++ right) = utf8 left ++ utf8 right :=
  List.flatMap_append

theorem utf8_cons (c : Char) (rest : List Char) :
    utf8 (c :: rest) = String.utf8EncodeChar c ++ utf8 rest :=
  List.flatMap_cons

theorem ofUtf8?_utf8 (cs : List Char) : ofUtf8? (utf8 cs) = some (String.ofList cs) := by
  have same : (⟨(utf8 cs).toArray⟩ : ByteArray) = cs.utf8Encode := by
    apply ByteArray.ext
    simp [utf8, List.utf8Encode]
  have valid : ByteArray.IsValidUTF8 ⟨(utf8 cs).toArray⟩ := ⟨cs, same⟩
  unfold ofUtf8? String.fromUTF8?
  rw [dif_pos valid]
  congr 1
  simp only [String.fromUTF8, String.ofList, same]

theorem utf8EncodeChar_of_ascii {c : Char} (ascii : c.toNat < 0x80) :
    String.utf8EncodeChar c = [UInt8.ofNat c.toNat] := by
  have small : c.val.toNat ≤ 127 := Nat.lt_succ_iff.mp ascii
  simp only [String.utf8EncodeChar, if_pos small]
  rfl

/-- The bytes of a character that is no ASCII character are no ASCII bytes. -/
theorem le_of_mem_utf8EncodeChar
    {c : Char} (wide : 0x80 ≤ c.toNat) {byte : UInt8} (member : byte ∈ String.utf8EncodeChar c) :
    0x80 ≤ byte.toNat := by
  have large : ¬ c.val.toNat ≤ 127 := Nat.not_le_of_lt wide
  have high (n : Nat) (low : 0x80 ≤ n) (small : n < 256) : 0x80 ≤ (UInt8.ofNat n).toNat := by
    rw [UInt8.toNat_ofNat_of_lt' small]
    exact low
  simp only [String.utf8EncodeChar, if_neg large] at member
  split at member
  · simp only [List.mem_cons, List.not_mem_nil, or_false] at member
    rcases member with rfl | rfl <;> apply high <;> omega
  · split at member
    · simp only [List.mem_cons, List.not_mem_nil, or_false] at member
      rcases member with rfl | rfl | rfl <;> apply high <;> omega
    · simp only [List.mem_cons, List.not_mem_nil, or_false] at member
      rcases member with rfl | rfl | rfl | rfl <;> apply high <;> omega

end Text.Percent

namespace Json

open Percent (utf8 utf8_append utf8_cons)

/-! ## Texts -/

theorem stringFrom?_plain
    {bytes : List UInt8} (held rest : List UInt8)
    (plain : ∀ byte ∈ bytes, 0x20 ≤ byte.toNat ∧ byte ≠ 0x22 ∧ byte ≠ 0x5C) :
    stringFrom? (some held) (bytes ++ rest) =
      stringFrom? (some (bytes.reverse ++ held)) rest := by
  induction bytes generalizing held with
  | nil => rfl
  | cons byte others inductionHypothesis =>
      obtain ⟨low, noQuote, noBackslash⟩ := plain byte List.mem_cons_self
      have visible : ¬ byte < 0x20 := by
        rw [UInt8.lt_iff_toNat_lt]
        exact Nat.not_lt_of_le low
      have further := inductionHypothesis (byte :: held)
        fun other member => plain other (List.mem_cons_of_mem _ member)
      rw [List.cons_append, stringFrom?, if_neg noQuote, if_neg noBackslash, if_neg visible,
        Option.map_some, further, List.reverse_cons, List.append_assoc, List.singleton_append]

theorem stringFrom?_escape
    {escaped meaning after : List UInt8} (held : List UInt8)
    (escape : escape? escaped = some (some meaning, after)) :
    stringFrom? (some held) (0x5C :: escaped) =
      stringFrom? (some (meaning.reverse ++ held)) after := by
  rw [stringFrom?, if_neg (by decide), if_pos rfl]
  split
  · next none => rw [escape] at none; contradiction
  · next found =>
      rw [escape] at found
      cases found
      rfl

/-- The four digits of a control character are read as its number. -/
theorem hexQuad?_fixed {code : Nat} (control : code < 0x20) (rest : List UInt8) :
    hexQuad? (utf8 (Hex.fixed 4 code) ++ rest) = some (code, rest) := by
  have bytes : ∀ code < 0x20, utf8 (Hex.fixed 4 code) =
      [0x30, 0x30, UInt8.ofNat (Hex.lowerDigit (code / 16)).toNat,
        UInt8.ofNat (Hex.lowerDigit (code % 16)).toNat] := by
    decide
  have number : ∀ code < 0x20, Hex.value? ((utf8 (Hex.fixed 4 code)).map Percent.ofByte) =
      some code := by
    decide
  have value := number code control
  rw [bytes code control] at value
  rw [bytes code control]
  simp only [List.cons_append, List.nil_append, hexQuad?, value, Option.map_some]

theorem escape?_control {c : Char} (control : c.toNat < 0x20) (rest : List UInt8) :
    escape? (0x75 :: (utf8 (Hex.fixed 4 c.toNat) ++ rest)) =
      some (some (String.utf8EncodeChar c), rest) := by
  have below : (decide (c.toNat < 0xD800) || decide (0xDFFF < c.toNat)) = true := by
    simp only [Bool.or_eq_true, decide_eq_true_eq]
    omega
  simp only [escape?, hexQuad?_fixed control, below, ↓reduceIte, Char.ofNat_toNat]

/-- A character is taken back from what is written for it. -/
theorem stringFrom?_escapeChar (held : List UInt8) (c : Char) (rest : List UInt8) :
    stringFrom? (some held) (utf8 (escapeChar c) ++ rest) =
      stringFrom? (some ((String.utf8EncodeChar c).reverse ++ held)) rest := by
  unfold escapeChar
  split
  case h_8 noQuote noBackslash _ _ _ _ _ =>
    split
    · next control =>
        rw [utf8_append, List.append_assoc]
        exact stringFrom?_escape held (escape?_control control rest)
    · next visible =>
        have single : utf8 [c] = String.utf8EncodeChar c := by
          rw [utf8_cons]
          exact List.append_nil _
        rw [single]
        apply stringFrom?_plain
        intro byte member
        by_cases ascii : c.toNat < 0x80
        · rw [Percent.utf8EncodeChar_of_ascii ascii, List.mem_singleton] at member
          have value : byte.toNat = c.toNat := by
            rw [member]
            exact UInt8.toNat_ofNat_of_lt' (Nat.lt_trans ascii (by decide))
          have differs (d : Char) (other : c ≠ d) (code : UInt8) (same : code.toNat = d.toNat) :
              byte ≠ code := by
            rintro rfl
            exact other (Char.toNat_inj.mp (value.symm.trans same))
          exact ⟨by omega, differs '"' noQuote 0x22 rfl, differs '\\' noBackslash 0x5C rfl⟩
        · have high := Percent.le_of_mem_utf8EncodeChar (Nat.le_of_not_lt ascii) member
          have differs (code : UInt8) (low : code.toNat < 0x80) : byte ≠ code := by
            rintro rfl
            omega
          exact ⟨by omega, differs 0x22 (by decide), differs 0x5C (by decide)⟩
  all_goals exact stringFrom?_escape held rfl

theorem stringFrom?_printed (held : List UInt8) (cs : List Char) (rest : List UInt8) :
    stringFrom? (some held) (utf8 (cs.flatMap escapeChar) ++ 0x22 :: rest) =
      some (Percent.ofUtf8? (held.reverse ++ utf8 cs), rest) := by
  induction cs generalizing held with
  | nil =>
      have empty : utf8 [] = [] := rfl
      rw [List.flatMap_nil, empty, List.nil_append, List.append_nil, stringFrom?, if_pos rfl,
        Option.bind_some]
  | cons c others inductionHypothesis =>
      rw [List.flatMap_cons, utf8_append, List.append_assoc, stringFrom?_escapeChar,
        inductionHypothesis, utf8_cons, List.reverse_append, List.reverse_reverse,
        List.append_assoc]

/-- A text is taken back from what is printed for it. -/
theorem token?_printText (text : String) (rest : List UInt8) :
    token? (utf8 (printText text) ++ rest) = some (.text (some text), rest) := by
  have quoted : utf8 (printText text) ++ rest =
      0x22 :: (utf8 (text.toList.flatMap escapeChar) ++ 0x22 :: rest) := by
    unfold printText
    rw [utf8_cons, utf8_append, List.append_assoc, List.append_assoc]
    rfl
  rw [quoted, token?, stringFrom?_printed, List.reverse_nil, List.nil_append,
    Percent.ofUtf8?_utf8, String.ofList_toList, Option.map_some]

/-! ## Integers -/

/-- What is behind a number does not go on with it. -/
def Stops (rest : List UInt8) : Prop :=
  ∀ byte, rest.head? = some byte →
    isDigitByte byte = false ∧ byte ≠ 0x2E ∧ byte ≠ 0x65 ∧ byte ≠ 0x45

theorem stops_nil : Stops [] := by
  intro byte impossible
  cases impossible

theorem digit_ascii {c : Char} (digit : Decimal.isDigit c = true) :
    0x30 ≤ c.toNat ∧ c.toNat ≤ 0x39 := by
  simpa [Decimal.isDigit] using digit

theorem ofByte_ofNat {c : Char} (ascii : c.toNat < 0x80) :
    Percent.ofByte (UInt8.ofNat c.toNat) = c := by
  unfold Percent.ofByte
  rw [UInt8.toNat_ofNat_of_lt' (Nat.lt_trans ascii (by decide)), Char.ofNat_toNat]

theorem isDigitByte_ofNat {c : Char} (digit : Decimal.isDigit c = true) :
    isDigitByte (UInt8.ofNat c.toNat) = true := by
  obtain ⟨-, high⟩ := digit_ascii digit
  unfold isDigitByte
  rw [ofByte_ofNat (by omega), digit]

theorem digitsOf_utf8
    {numeral : List Char} (digits : ∀ c ∈ numeral, Decimal.isDigit c = true)
    {rest : List UInt8} (stops : Stops rest) :
    digitsOf (utf8 numeral ++ rest) = (numeral, rest) := by
  induction numeral with
  | nil =>
      cases rest with
      | nil => rfl
      | cons byte others =>
          have other := (stops byte rfl).1
          have empty : utf8 [] = [] := rfl
          simp [digitsOf, empty, other]
  | cons c others inductionHypothesis =>
      have digit := digits c List.mem_cons_self
      have ascii : c.toNat < 0x80 := by
        have bounds := digit_ascii digit
        omega
      have further := inductionHypothesis fun d member => digits d (List.mem_cons_of_mem _ member)
      simp only [digitsOf, Prod.mk.injEq] at further
      rw [utf8_cons, Percent.utf8EncodeChar_of_ascii ascii, List.append_assoc,
        List.singleton_append]
      simp only [digitsOf, List.takeWhile_cons, List.dropWhile_cons, isDigitByte_ofNat digit,
        ↓reduceIte, List.map_cons, ofByte_ofNat ascii, further]

/-- No number but zero is written with a leading zero. -/
theorem digits_head {n : Nat} (positive : 0 < n) : (Decimal.digits n).head? ≠ some '0' := by
  fun_induction Decimal.digits n with
  | case1 n small =>
      intro zero
      have value := Decimal.digitValue_digit small
      rw [List.head?_cons, Option.some.injEq] at zero
      rw [zero] at value
      have none : Decimal.digitValue '0' = 0 := rfl
      omega
  | case2 n large inductionHypothesis =>
      obtain ⟨first, others, shape⟩ := List.exists_cons_of_ne_nil (Decimal.digits_ne_nil (n / 10))
      have noZero := inductionHypothesis (by omega)
      rw [shape, List.head?_cons] at noZero
      rw [shape, List.cons_append, List.head?_cons]
      exact noZero

theorem number?_digits (negative : Bool) (n : Nat) {rest : List UInt8} (stops : Stops rest) :
    number? negative (utf8 (Decimal.digits n) ++ rest) =
      some (wholeNumber negative (Decimal.digits n), rest) := by
  have digits : ∀ c ∈ Decimal.digits n, Decimal.isDigit c = true :=
    fun c member => Decimal.isDigit_of_mem_digits member
  have numeral := digitsOf_utf8 digits stops
  have wellFormed : ((Decimal.digits n).isEmpty ||
      (decide ((Decimal.digits n).head? = some '0') && decide (1 < (Decimal.digits n).length))) =
        false := by
    have filled := Decimal.digits_ne_nil n
    rcases Nat.eq_zero_or_pos n with zero | positive
    · have single : Decimal.digits 0 = ['0'] := by
        rw [Decimal.digits]
        rfl
      rw [zero, single]
      rfl
    · simp [filled, digits_head positive]
  have noExponent : exponent? rest = some (none, rest) := by
    cases rest with
    | nil => rfl
    | cons byte others =>
        obtain ⟨-, -, noMark, noCapital⟩ := stops byte rfl
        simp [exponent?, noMark, noCapital]
  unfold number?
  rw [numeral]
  simp only [wellFormed, Bool.false_eq_true, ↓reduceIte]
  split
  · next point => exact absurd rfl (stops _ rfl).2.1
  · rw [noExponent]
    rfl

theorem wholeNumber_positive {n : Nat} (small : n < 1 <<< 64) :
    wholeNumber false (Decimal.digits n) = .integer n := by
  simp only [wholeNumber, Decimal.value_digits, decide_eq_true small, Bool.not_false,
    Bool.and_true, ↓reduceIte]

theorem wholeNumber_negative {n : Nat} (positive : 0 < n) (small : n ≤ 1 <<< 63) :
    wholeNumber true (Decimal.digits n) = .integer (-n) := by
  simp only [wholeNumber, Decimal.value_digits, decide_eq_true positive, decide_eq_true small,
    Bool.not_true, Bool.false_and, Bool.and_true, Bool.false_eq_true, ↓reduceIte]

/-- An integer of 64 bits with a sign. -/
def IsInt64 (value : Int) : Prop :=
  -(int64Bound : Int) ≤ value ∧ value < int64Bound

theorem token?_digit {byte : UInt8} (digit : isDigitByte byte = true) (rest : List UInt8) :
    token? (byte :: rest) =
      (number? false (byte :: rest)).map fun result => (.scalar result.1, result.2) := by
  unfold token?
  split
  case h_10 first behind _ _ _ _ _ _ _ _ same =>
    cases same
    rw [if_pos digit]
  case h_1 impossible => cases impossible
  all_goals
    next same =>
      cases same
      exact absurd digit (by decide)

/-- An integer is taken back from what is printed for it. -/
theorem token?_ofInt {value : Int} (fits : IsInt64 value) {rest : List UInt8}
    (stops : Stops rest) :
    token? (utf8 (Decimal.ofInt value).toList ++ rest) = some (.scalar (.integer value), rest) := by
  have bound : int64Bound = 2 ^ 63 := by decide
  obtain ⟨low, high⟩ := fits
  cases value with
  | ofNat n =>
      have small : n < 1 <<< 64 := by
        have wide : 1 <<< 64 = 2 ^ 64 := by decide
        have below : (n : Int) < int64Bound := high
        omega
      obtain ⟨c, others, shape⟩ := List.exists_cons_of_ne_nil (Decimal.digits_ne_nil n)
      have digit : Decimal.isDigit c = true :=
        Decimal.isDigit_of_mem_digits (n := n) (by rw [shape]; exact List.mem_cons_self)
      have ascii : c.toNat < 0x80 := by
        have bounds := digit_ascii digit
        omega
      have bytes : utf8 (Decimal.digits n) ++ rest =
          UInt8.ofNat c.toNat :: (utf8 others ++ rest) := by
        rw [shape, utf8_cons, Percent.utf8EncodeChar_of_ascii ascii, List.append_assoc,
          List.singleton_append]
      have number := number?_digits false n stops
      rw [Decimal.ofInt, Decimal.ofNat, String.toList_ofList, bytes,
        token?_digit (isDigitByte_ofNat digit), ← bytes, number, wholeNumber_positive small]
      rfl
  | negSucc n =>
      have small : n + 1 ≤ 1 <<< 63 := by
        have wide : 1 <<< 63 = 2 ^ 63 := by decide
        omega
      have number := number?_digits true (n + 1) stops
      have bytes : utf8 ('-' :: Decimal.digits (n + 1)) ++ rest =
          0x2D :: (utf8 (Decimal.digits (n + 1)) ++ rest) := by
        rw [utf8_cons, List.append_assoc]
        rfl
      rw [Decimal.ofInt, String.toList_ofList, bytes, token?, number,
        wholeNumber_negative (Nat.succ_pos n) small]
      rfl

/-! ## Words -/

theorem token?_null (rest : List UInt8) :
    token? (utf8 "null".toList ++ rest) = some (.scalar .null, rest) :=
  rfl

theorem token?_boolean (value : Bool) (rest : List UInt8) :
    token? (utf8 (if value then "true" else "false").toList ++ rest) =
      some (.scalar (.boolean value), rest) := by
  cases value with
  | true => rfl
  | false => rfl

end Json

end PipelineRegistry
