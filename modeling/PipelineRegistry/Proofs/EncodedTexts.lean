import PipelineRegistry.Proofs.PrintedTokens
import PipelineRegistry.Text.Form

/-!
# Encoded texts

What is encoded for an address is read back, so that different texts have different encodings. This
holds of percent encoding, whatever else it keeps, if it does not keep the percent sign, and of form
encoding.
-/

namespace PipelineRegistry.Text

/-! ## Percent encoding -/

namespace Percent

theorem utf8_injective : Function.Injective utf8 := by
  intro one other same
  have read := ofUtf8?_utf8 one
  rw [same, ofUtf8?_utf8 other, Option.some.injEq] at read
  exact (String.ofList_injective read).symm

theorem toNat_ofByte {byte : UInt8} (ascii : byte < 0x80) : (ofByte byte).toNat = byte.toNat := by
  have small : byte.toNat < 0x80 := ascii
  have valid : byte.toNat.isValidChar := Or.inl (by omega)
  rw [ofByte, Char.ofNat, dif_pos valid]
  rfl

theorem utf8EncodeChar_ofByte {byte : UInt8} (ascii : byte < 0x80) :
    String.utf8EncodeChar (ofByte byte) = [byte] := by
  have same := toNat_ofByte ascii
  have small : (ofByte byte).toNat < 0x80 := by
    rw [same]
    exact ascii
  rw [utf8EncodeChar_of_ascii small, same, UInt8.ofNat_toNat]

/-- A hexadecimal digit is one byte, and it has its value. -/
theorem utf8EncodeChar_upperDigit {n : Nat} (small : n < 16) :
    ∃ byte, String.utf8EncodeChar (Hex.upperDigit n) = [byte] ∧
      Hex.digitValue? (ofByte byte) = some n := by
  have digits : ∀ n < 16, (Hex.upperDigit n).toNat < 0x80 ∧
      Hex.digitValue? (ofByte (UInt8.ofNat (Hex.upperDigit n).toNat)) = some n := by
    decide
  obtain ⟨ascii, value⟩ := digits n small
  exact ⟨_, utf8EncodeChar_of_ascii ascii, value⟩

theorem decodeBytes_cons_of_ne {byte : UInt8} (plain : byte ≠ 0x25) (rest : List UInt8) :
    decodeBytes (byte :: rest) = byte :: decodeBytes rest := by
  rw [decodeBytes.eq_def]
  exact if_neg plain

theorem decodeBytes_triple (byte : UInt8) (rest : List UInt8) :
    decodeBytes (utf8 (triple byte) ++ rest) = byte :: decodeBytes rest := by
  have bound : byte.toNat < 256 := byte.toNat_lt
  obtain ⟨high, highEncoded, highValue⟩ :=
    utf8EncodeChar_upperDigit (n := byte.toNat / 16) (by omega)
  obtain ⟨low, lowEncoded, lowValue⟩ :=
    utf8EncodeChar_upperDigit (n := byte.toNat % 16) (by omega)
  have bytes : utf8 (triple byte) = [0x25, high, low] := by
    have percent : String.utf8EncodeChar '%' = [0x25] := by decide
    simp only [triple, utf8, List.flatMap_cons, List.flatMap_nil, percent, highEncoded, lowEncoded,
      List.cons_append, List.nil_append]
  have whole : byte.toNat / 16 * 16 + byte.toNat % 16 = byte.toNat := by omega
  rw [bytes, List.cons_append, List.cons_append, List.cons_append, List.nil_append, decodeBytes,
    if_pos rfl]
  simp only [highValue, lowValue, whole, UInt8.ofNat_toNat]

variable {keeps : Char → Bool}

theorem decodeBytes_encodeBytes (escapes : keeps '%' = false) (bytes rest : List UInt8) :
    decodeBytes (utf8 (encodeBytes keeps bytes) ++ rest) = bytes ++ decodeBytes rest := by
  induction bytes with
  | nil => rfl
  | cons byte more inductionHypothesis =>
      rw [encodeBytes, List.flatMap_cons, utf8_append, List.append_assoc, List.cons_append]
      change decodeBytes (_ ++ (utf8 (encodeBytes keeps more) ++ rest)) = _
      by_cases kept : (byte < 0x80 && keeps (ofByte byte)) = true
      · rw [if_pos kept]
        rw [Bool.and_eq_true, decide_eq_true_eq] at kept
        have plain : byte ≠ 0x25 := by
          rintro rfl
          have percent : ofByte 0x25 = '%' := by decide
          rw [percent, escapes] at kept
          cases kept.2
        have single : utf8 [ofByte byte] = [byte] := by
          rw [utf8_cons, utf8EncodeChar_ofByte kept.1]
          rfl
        rw [single, List.singleton_append, decodeBytes_cons_of_ne plain, inductionHypothesis]
      · rw [if_neg kept, decodeBytes_triple, inductionHypothesis]

theorem decodeBytes_encode (escapes : keeps '%' = false) (text : List Char) :
    decodeBytes (utf8 (encode keeps text)) = utf8 text := by
  have decoded := decodeBytes_encodeBytes escapes (utf8 text) []
  rwa [decodeBytes, List.append_nil, List.append_nil] at decoded

/-- An encoded text is read back. -/
theorem decode?_encode (escapes : keeps '%' = false) (text : List Char) :
    decode? (encode keeps text) = some (String.ofList text) := by
  rw [decode?, decodeBytes_encode escapes, ofUtf8?_utf8]

theorem encode_injective (escapes : keeps '%' = false) : Function.Injective (encode keeps) := by
  intro one other same
  have read := decode?_encode escapes one
  rw [same, decode?_encode escapes other, Option.some.injEq] at read
  exact (String.ofList_injective read).symm

/-- Encoded texts are made of percent signs, hexadecimal digits, and what is kept. -/
theorem forall_mem_encode
    {good : Char → Prop} (percent : good '%') (digits : ∀ n < 16, good (Hex.upperDigit n))
    (kept : ∀ c, c.toNat < 0x80 → keeps c = true → good c) {text : List Char} :
    ∀ c ∈ encode keeps text, good c := by
  intro c member
  obtain ⟨byte, -, member⟩ := List.mem_flatMap.mp member
  by_cases keep : (byte < 0x80 && keeps (ofByte byte)) = true
  · rw [if_pos keep, List.mem_singleton] at member
    rw [Bool.and_eq_true, decide_eq_true_eq] at keep
    subst member
    refine kept _ ?_ keep.2
    rw [toNat_ofByte keep.1]
    exact keep.1
  · have bound : byte.toNat < 256 := byte.toNat_lt
    rw [if_neg keep] at member
    simp only [triple, List.mem_cons, List.not_mem_nil, or_false] at member
    rcases member with rfl | rfl | rfl
    · exact percent
    · exact digits _ (by omega)
    · exact digits _ (by omega)

end Percent

/-! ## Form encoding -/

namespace Form

theorem decode_map_plus
    {encoded : List Char} (plain : ∀ c ∈ encoded, c.toNat < 0x80 ∧ c ≠ '+') :
    (Percent.utf8 (encoded.map fun c => if c = ' ' then '+' else c)).map
      (fun byte => if byte = 0x2B then 0x20 else byte) = Percent.utf8 encoded := by
  induction encoded with
  | nil => rfl
  | cons c rest inductionHypothesis =>
      obtain ⟨⟨ascii, notPlus⟩, plainRest⟩ := List.forall_mem_cons.mp plain
      rw [List.map_cons, Percent.utf8_cons, Percent.utf8_cons, List.map_append,
        inductionHypothesis plainRest]
      congr 1
      by_cases space : c = ' '
      · subst space
        decide
      · rw [if_neg space, Percent.utf8EncodeChar_of_ascii ascii]
        have differs : UInt8.ofNat c.toNat ≠ 0x2B := by
          intro same
          have code : c.toNat = 0x2B := by
            have numbers := congrArg UInt8.toNat same
            rwa [UInt8.toNat_ofNat_of_lt' (Nat.lt_trans ascii (by decide))] at numbers
          exact notPlus (Char.toNat_inj.mp code)
        rw [List.map_singleton, if_neg differs]

/-- An encoded text is read back. -/
theorem decode_encode (text : List Char) : decode (encode text) = Percent.utf8 text := by
  have plain : ∀ c ∈ Percent.encode (fun c => keeps c || c = ' ') text,
      c.toNat < 0x80 ∧ c ≠ '+' := by
    apply Percent.forall_mem_encode
    · decide
    · decide
    · intro c ascii kept
      refine ⟨ascii, ?_⟩
      rintro rfl
      revert kept
      decide
  rw [decode, encode, decode_map_plus plain]
  exact Percent.decodeBytes_encode (by decide) text

theorem encode_injective : Function.Injective encode := by
  intro one other same
  apply Percent.utf8_injective
  rw [← decode_encode one, same, decode_encode other]

end Form

end PipelineRegistry.Text
