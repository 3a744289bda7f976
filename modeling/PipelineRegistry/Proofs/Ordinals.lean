import PipelineRegistry.ColumnPath
import PipelineRegistry.Proofs.WordNumerals

/-!
# Column indices

Which paths a CSV source takes. A path is checked character by character, but a machine looks at its
bytes, all of which must be digits, and then reads them into a word of 64 bits. Both ways accept the
same paths, and `ordinals_are_exact` says which ones these are: the numerals up to the largest word,
with any number of zeros before them.
-/

namespace PipelineRegistry

open PipelineRegistry.Text
open Decimal (isNumeral_iff)
open Percent (utf8_toList utf8_eq_nil_iff)

/-! ## Leading zeros -/

namespace Text.Decimal

theorem value_replicate_zero_append (zeros : Nat) (numeral : List Char) :
    value (List.replicate zeros '0' ++ numeral) = value numeral := by
  induction zeros with
  | zero => rfl
  | succ zeros inductionHypothesis =>
      rw [List.replicate_succ, List.cons_append, value, valueFrom_cons]
      exact inductionHypothesis

theorem isNumeral_replicate_zero_append
    (zeros : Nat) {numeral : List Char} (numbers : isNumeral numeral = true) :
    isNumeral (List.replicate zeros '0' ++ numeral) = true := by
  obtain ⟨filled, digits⟩ := isNumeral_iff.mp numbers
  have zeroDigit : (List.replicate zeros '0').all isDigit = true := by
    rw [List.all_replicate]
    simp [isDigit]
  rw [isNumeral_iff, List.all_append, zeroDigit, digits]
  refine ⟨?_, rfl⟩
  intro empty
  exact filled (List.append_eq_nil_iff.mp empty).2

end Text.Decimal

namespace ColumnPath

/-- An index judged by its bytes: there are some, all are digits, and together they fit a word. -/
def isOrdinalOfBytes (bytes : List UInt8) : Bool :=
  !bytes.isEmpty && bytes.all isDigitByte && (WordKind.unsigned.read bytes).isOk

theorem isOrdinal_iff {path : String} :
    isOrdinal path = true ↔
      Decimal.isNumeral path.toList = true ∧ Decimal.value path.toList ≤ 2 ^ 64 - 1 := by
  have limit : ordinalLimit = 2 ^ 64 - 1 := by decide
  unfold isOrdinal
  rw [Decimal.natural?_eq, limit]
  by_cases both : Decimal.isNumeral path.toList = true ∧ Decimal.value path.toList ≤ 2 ^ 64 - 1
  · rw [if_pos both]
    exact ⟨fun _ => both, fun _ => rfl⟩
  · rw [if_neg both]
    exact ⟨fun impossible => absurd impossible (by decide), fun found => absurd found both⟩

theorem isNumeral_iff_bytes {path : String} :
    Decimal.isNumeral path.toList = true ↔
      path.toUTF8.data.toList ≠ [] ∧ path.toUTF8.data.toList.all isDigitByte = true := by
  rw [isNumeral_iff, ← utf8_toList, all_isDigitByte_utf8, ne_eq, ne_eq, utf8_eq_nil_iff]

/-- The reading of words fails exactly above the largest word. -/
theorem read_eq {path : String} (isNumeral : Decimal.isNumeral path.toList = true) :
    WordKind.unsigned.read path.toUTF8.data.toList =
      if Decimal.value path.toList ≤ 2 ^ 64 - 1 then .ok (Decimal.value path.toList : Int)
      else .error .aboveGreatest := by
  have greatest : (Decimal.value path.toList : Int) ≤ WordKind.unsigned.greatest ↔
      Decimal.value path.toList ≤ 2 ^ 64 - 1 := by
    simp only [WordKind.unsigned]
    omega
  rw [← utf8_toList, WordKind.read_numeral _ isNumeral]
  simp only [greatest]

theorem isOrdinalOfBytes_eq (path : String) :
    isOrdinalOfBytes path.toUTF8.data.toList = isOrdinal path := by
  rw [Bool.eq_iff_iff, isOrdinal_iff, isOrdinalOfBytes, Bool.and_eq_true, Bool.and_eq_true,
    Bool.not_eq_true', List.isEmpty_eq_false_iff, ← isNumeral_iff_bytes]
  apply and_congr_right
  intro isNumeral
  rw [read_eq isNumeral]
  by_cases fits : Decimal.value path.toList ≤ 2 ^ 64 - 1
  · rw [if_pos fits]
    exact ⟨fun _ => fits, fun _ => rfl⟩
  · rw [if_neg fits]
    exact ⟨fun impossible => absurd impossible (by decide), fun within => absurd within fits⟩

theorem validate_csv_eq_ok_iff {path : String} :
    validate (some .csv) path = .ok () ↔ isOrdinal path = true := by
  unfold validate
  by_cases ordinal : isOrdinal path = true <;> simp [ordinal]

/-- A CSV source takes exactly the nonempty texts of ASCII digits whose number fits 64 bits, with
any number of leading zeros, and refuses every other text with that text. Its bytes decide just as
well, and reading digits into a word overflows exactly above the largest word. -/
theorem ordinals_are_exact (path : String) :
    (validate (some .csv) path = .ok () ↔
      path ≠ "" ∧ (∀ c ∈ path.toList, '0' ≤ c ∧ c ≤ '9') ∧
        Decimal.value path.toList ≤ 2 ^ 64 - 1) ∧
    (validate (some .csv) path ≠ .ok () →
      validate (some .csv) path = .error (.invalidOrdinal path)) ∧
    isOrdinal path = isOrdinalOfBytes path.toUTF8.data.toList ∧
    (Decimal.isNumeral path.toList = true →
      (WordKind.unsigned.read path.toUTF8.data.toList = .error .aboveGreatest ↔
        2 ^ 64 - 1 < Decimal.value path.toList)) ∧
    ∀ zeros n : Nat,
      validate (some .csv) (String.ofList (List.replicate zeros '0' ++ Decimal.digits n)) =
          .ok () ↔
        n ≤ 2 ^ 64 - 1 := by
  refine ⟨?language, ?refusal, (isOrdinalOfBytes_eq path).symm, ?overflow, ?zeros⟩
  case language =>
    have filled : path.toList ≠ [] ↔ path ≠ "" := by
      rw [ne_eq, String.toList_eq_nil_iff]
    rw [validate_csv_eq_ok_iff, isOrdinal_iff, isNumeral_iff, filled, List.all_eq_true, and_assoc]
    simp only [Decimal.isDigit_iff]
  case refusal =>
    intro refused
    rw [ne_eq, validate_csv_eq_ok_iff] at refused
    exact if_neg refused
  case overflow =>
    intro isNumeral
    rw [read_eq isNumeral]
    by_cases fits : Decimal.value path.toList ≤ 2 ^ 64 - 1
    · rw [if_pos fits]
      exact ⟨fun impossible => (nomatch impossible), fun beyond => absurd fits (by omega)⟩
    · rw [if_neg fits]
      exact ⟨fun _ => Nat.lt_of_not_le fits, fun _ => rfl⟩
  case zeros =>
    intro zeros n
    have numeral :=
      Decimal.isNumeral_replicate_zero_append zeros (Decimal.isNumeral_digits n)
    rw [validate_csv_eq_ok_iff, isOrdinal_iff, String.toList_ofList,
      Decimal.value_replicate_zero_append, Decimal.value_digits]
    exact ⟨fun both => both.2, fun fits => ⟨numeral, fits⟩⟩

/-- One more than the largest word, behind three zeros. -/
theorem ordinals_are_exact_overflow :
    Decimal.isNumeral "00018446744073709551616".toList = true ∧
      WordKind.unsigned.read "00018446744073709551616".toUTF8.data.toList =
        .error .aboveGreatest ∧
      validate (some .csv) "00018446744073709551616" ≠ .ok () ∧
      validate (some .csv) "00018446744073709551616" =
        .error (.invalidOrdinal "00018446744073709551616") := by
  have isNumeral : Decimal.isNumeral "00018446744073709551616".toList = true := by decide
  obtain ⟨language, refusal, -, overflow, -⟩ := ordinals_are_exact "00018446744073709551616"
  have beyond : 2 ^ 64 - 1 < Decimal.value "00018446744073709551616".toList := by decide
  have refused : validate (some .csv) "00018446744073709551616" ≠ .ok () := by
    intro accepted
    have fits := (language.mp accepted).2.2
    omega
  exact ⟨isNumeral, (overflow isNumeral).mpr beyond, refused, refusal refused⟩

end ColumnPath

end PipelineRegistry
