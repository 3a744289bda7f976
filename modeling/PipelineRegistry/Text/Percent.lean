import PipelineRegistry.Text.Hex

/-!
# Percent encoding

A text is encoded by way of its UTF-8 bytes: a byte that may stand for itself is kept and every
other one becomes a percent sign and two hexadecimal digits. Decoding takes each such triple back
and leaves a percent sign that starts no triple as it is.
-/

namespace PipelineRegistry.Text.Percent

/-! ## Bytes -/

/-- The UTF-8 bytes of a text. -/
def utf8 (text : List Char) : List UInt8 :=
  text.flatMap String.utf8EncodeChar

/-- The text that a list of bytes encodes, or none if the bytes are no UTF-8. -/
def ofUtf8? (bytes : List UInt8) : Option String :=
  String.fromUTF8? ⟨bytes.toArray⟩

/-- An ASCII byte as a character. -/
def ofByte (byte : UInt8) : Char :=
  Char.ofNat byte.toNat

/-! ## Encoding -/

/-- A byte as a percent sign and two capital hexadecimal digits. -/
def triple (byte : UInt8) : List Char :=
  ['%', Hex.upperDigit (byte.toNat / 16), Hex.upperDigit (byte.toNat % 16)]

/-- Encodes every byte that `keeps` does not allow; bytes outside ASCII are never kept. -/
def encodeBytes (keeps : Char → Bool) (bytes : List UInt8) : List Char :=
  bytes.flatMap fun byte =>
    if byte < 0x80 && keeps (ofByte byte) then [ofByte byte] else triple byte

/-- Encodes a text, keeping the ASCII characters that `keeps` allows. -/
def encode (keeps : Char → Bool) (text : List Char) : List Char :=
  encodeBytes keeps (utf8 text)

/-! ## Decoding -/

/-- Takes every complete triple back to its byte; all other bytes stand for themselves. -/
def decodeBytes : List UInt8 → List UInt8
  | [] => []
  | byte :: rest =>
      if byte = 0x25 then
        match rest with
        | high :: low :: after =>
            match Hex.digitValue? (ofByte high), Hex.digitValue? (ofByte low) with
            | some h, some l => UInt8.ofNat (h * 16 + l) :: decodeBytes after
            | _, _ => byte :: decodeBytes (high :: low :: after)
        | [last] => [byte, last]
        | [] => [byte]
      else byte :: decodeBytes rest
termination_by bytes => bytes.length

/-- The text whose encoding this is, or none if the decoded bytes are no UTF-8. -/
def decode? (text : List Char) : Option String :=
  ofUtf8? (decodeBytes (utf8 text))

end PipelineRegistry.Text.Percent
