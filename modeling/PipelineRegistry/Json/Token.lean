import PipelineRegistry.Json.Basic
import PipelineRegistry.Text.Hex
import PipelineRegistry.Text.Percent

/-!
# JSON tokens

The tokens of a JSON text, which is given by its bytes. A string token is decoded at once; it holds
no text if it has a surrogate without its other half or bytes that are no UTF-8. The main statement
is `token?_length`, that what is left behind a token is always shorter.
-/

namespace PipelineRegistry.Json

open PipelineRegistry.Text

/-- The tokens of a JSON text. A scalar is any value but a string and a container. -/
inductive Token
  | openBracket
  | closeBracket
  | openBrace
  | closeBrace
  | comma
  | colon
  | text (value : Option String)
  | scalar (value : Json)
  deriving Repr

/-! ## Bytes -/

/-- Blanks between tokens. -/
def isBlankByte (byte : UInt8) : Bool :=
  byte == 0x20 || byte == 0x09 || byte == 0x0A || byte == 0x0D

/-- The digit that a byte stands for. -/
def isDigitByte (byte : UInt8) : Bool :=
  Decimal.isDigit (Percent.ofByte byte)

/-- A given ASCII word at the start of the bytes. -/
def afterWord? : List Char → List UInt8 → Option (List UInt8)
  | [], bytes => some bytes
  | _ :: _, [] => none
  | c :: word, byte :: bytes => if Percent.ofByte byte = c then afterWord? word bytes else none

/-! ## Strings -/

/-- The number of four hexadecimal digits and what is left behind them. -/
def hexQuad? : List UInt8 → Option (Nat × List UInt8)
  | a :: b :: c :: d :: rest => (Hex.value? ([a, b, c, d].map Percent.ofByte)).map (·, rest)
  | _ => none

/-- The second half of a surrogate pair, if it follows directly. -/
def lowSurrogate? : List UInt8 → Option (Nat × List UInt8)
  | 0x5C :: 0x75 :: rest =>
      match hexQuad? rest with
      | some (code, after) => if 0xDC00 ≤ code && code ≤ 0xDFFF then some (code, after) else none
      | none => none
  | _ => none

/-- One escape behind its backslash: the bytes it stands for, or none if they are no text, and what
is left. There is no answer if it is no escape. -/
def escape? : List UInt8 → Option (Option (List UInt8) × List UInt8)
  | 0x22 :: rest => some (some [0x22], rest)
  | 0x5C :: rest => some (some [0x5C], rest)
  | 0x2F :: rest => some (some [0x2F], rest)
  | 0x62 :: rest => some (some [0x08], rest)
  | 0x66 :: rest => some (some [0x0C], rest)
  | 0x6E :: rest => some (some [0x0A], rest)
  | 0x72 :: rest => some (some [0x0D], rest)
  | 0x74 :: rest => some (some [0x09], rest)
  | 0x75 :: digits =>
      match hexQuad? digits with
      | none => none
      | some (code, rest) =>
          if code < 0xD800 || 0xDFFF < code then
            some (some (String.utf8EncodeChar (Char.ofNat code)), rest)
          else if code ≤ 0xDBFF then
            match lowSurrogate? rest with
            | some (low, after) =>
                let point := 0x10000 + (code - 0xD800) * 0x400 + (low - 0xDC00)
                some (some (String.utf8EncodeChar (Char.ofNat point)), after)
            | none => some (none, rest)
          else some (none, rest)
  | _ => none

theorem hexQuad?_length {bytes rest : List UInt8} {code : Nat}
    (read : hexQuad? bytes = some (code, rest)) : rest.length < bytes.length := by
  unfold hexQuad? at read
  split at read
  · obtain ⟨value, -, same⟩ := Option.map_eq_some_iff.1 read
    simp only [Prod.mk.injEq] at same
    rw [← same.2]
    simp only [List.length_cons]
    omega
  · contradiction

theorem lowSurrogate?_length {bytes rest : List UInt8} {code : Nat}
    (read : lowSurrogate? bytes = some (code, rest)) : rest.length < bytes.length := by
  unfold lowSurrogate? at read
  split at read
  · split at read
    · next found =>
        have shorter := hexQuad?_length found
        split at read
        · simp only [Option.some.injEq, Prod.mk.injEq] at read
          rw [← read.2]
          simp only [List.length_cons]
          omega
        · contradiction
    · contradiction
  · contradiction

theorem escape?_length {bytes rest : List UInt8} {meaning : Option (List UInt8)}
    (read : escape? bytes = some (meaning, rest)) : rest.length < bytes.length := by
  unfold escape? at read
  split at read
  all_goals try
    simp only [Option.some.injEq, Prod.mk.injEq] at read
    rw [← read.2]
    simp only [List.length_cons]
    omega
  · split at read
    · contradiction
    · next found =>
        have shorter := hexQuad?_length found
        simp only [List.length_cons]
        split at read
        · simp only [Option.some.injEq, Prod.mk.injEq] at read
          rw [← read.2]
          omega
        · split at read
          · split at read
            · next low =>
                have further := lowSurrogate?_length low
                simp only [Option.some.injEq, Prod.mk.injEq] at read
                rw [← read.2]
                omega
            · simp only [Option.some.injEq, Prod.mk.injEq] at read
              rw [← read.2]
              omega
          · simp only [Option.some.injEq, Prod.mk.injEq] at read
            rw [← read.2]
            omega
  · contradiction

/-- The rest of a string behind its opening quote. `readBytes` are the bytes so far, the last first,
or none once a part of the string was no text. -/
def stringFrom? (readBytes : Option (List UInt8)) (bytes : List UInt8) :
    Option (Option String × List UInt8) :=
  match bytes with
  | [] => none
  | byte :: rest =>
      if byte = 0x22 then some (readBytes.bind fun held => Percent.ofUtf8? held.reverse, rest)
      else if byte = 0x5C then
        match _escaped : escape? rest with
        | none => none
        | some (meaning, after) =>
            stringFrom? (do return (← meaning).reverse ++ (← readBytes)) after
      else if byte < 0x20 then none
      else stringFrom? (readBytes.map (byte :: ·)) rest
termination_by bytes.length
decreasing_by
  · have shorter := escape?_length _escaped
    simp only [List.length_cons]
    omega
  · simp only [List.length_cons]
    omega

theorem stringFrom?_length {readBytes : Option (List UInt8)} {bytes rest : List UInt8}
    {value : Option String} (read : stringFrom? readBytes bytes = some (value, rest)) :
    rest.length < bytes.length := by
  fun_induction stringFrom? readBytes bytes with
  | case1 => contradiction
  | case2 readBytes behind =>
      simp only [Option.some.injEq, Prod.mk.injEq] at read
      rw [← read.2]
      simp only [List.length_cons]
      omega
  | case3 => contradiction
  | case4 readBytes behind meaning after found ordinary inductionHypothesis =>
      have shorter := escape?_length found
      have further := inductionHypothesis read
      simp only [List.length_cons]
      omega
  | case5 => contradiction
  | case6 readBytes byte behind ordinary plain large inductionHypothesis =>
      have further := inductionHypothesis read
      simp only [List.length_cons]
      omega

/-! ## Numbers -/

/-- Digits that are gathered into a significand while it stays below two to the power of sixty-four.
The first digit that does not fit and all digits behind it are dropped and counted. -/
def gather (significand dropped : Nat) : List Char → Nat × Nat
  | [] => (significand, dropped)
  | c :: rest =>
      let next := significand * 10 + Decimal.digitValue c
      if dropped = 0 && next < 1 <<< 64 then gather next 0 rest
      else gather significand (dropped + 1) rest

/-- Takes the digits at the start of the bytes. -/
def digitsOf (bytes : List UInt8) : List Char × List UInt8 :=
  ((bytes.takeWhile isDigitByte).map Percent.ofByte, bytes.dropWhile isDigitByte)

/-- A whole number that has neither fraction nor exponent. It is an integer while it fits 64 bits,
with a sign if it has one; a negative zero and anything larger is a floating point number. -/
def wholeNumber (negative : Bool) (numeral : List Char) : Json :=
  let value := Decimal.value numeral
  if !negative && value < 1 <<< 64 then .integer value
  else if negative && 0 < value && value ≤ 1 <<< 63 then .integer (-(value : Int))
  else
    let (significand, dropped) := gather 0 0 numeral
    match Binary64.ofDecimal? negative significand dropped with
    | some number => .float number
    | none => .unreadable

/-- A number with a fraction or an exponent. The fraction goes on with the significand of the whole
part as long as it fits. -/
def fractionalNumber (negative : Bool) (whole fraction : List Char) (exponent : Int) : Json :=
  let (significand, droppedWhole) := gather 0 0 whole
  let (full, droppedFraction) := gather significand 0 fraction
  let kept : Int := fraction.length - droppedFraction
  match Binary64.ofDecimal? negative full (droppedWhole - kept + exponent) with
  | some number => .float number
  | none => .unreadable

/-- A sign before a numeral, if there is one: whether it is a minus sign, and what is behind it. -/
def signOf : List UInt8 → Bool × List UInt8
  | 0x2B :: rest => (false, rest)
  | 0x2D :: rest => (true, rest)
  | bytes => (false, bytes)

/-- The exponent of a number, if its mark follows; a mark without digits is an error. -/
def exponent? : List UInt8 → Option (Option Int × List UInt8)
  | [] => some (none, [])
  | byte :: rest =>
      if byte = 0x65 || byte = 0x45 then
        let (digits, after) := digitsOf (signOf rest).2
        if digits.isEmpty then none
        else
          let size : Int := Decimal.value digits
          some (some (if (signOf rest).1 then -size else size), after)
      else some (none, byte :: rest)

/-- A whole number, or one with an exponent, from its digits. -/
def numberOf (negative : Bool) (whole : List Char) : Option Int → Json
  | none => wholeNumber negative whole
  | some exponent => fractionalNumber negative whole [] exponent

/-- A number behind its sign. Zero is the only number that starts with a zero. -/
def number? (negative : Bool) (bytes : List UInt8) : Option (Json × List UInt8) :=
  let (whole, behindWhole) := digitsOf bytes
  if whole.isEmpty || (whole.head? = some '0' && 1 < whole.length) then none
  else
    match behindWhole with
    | 0x2E :: behindPoint =>
        let (fraction, behindFraction) := digitsOf behindPoint
        if fraction.isEmpty then none
        else
          (exponent? behindFraction).map fun (exponent, rest) =>
            (fractionalNumber negative whole fraction (exponent.getD 0), rest)
    | _ =>
        (exponent? behindWhole).map fun (exponent, rest) =>
          (numberOf negative whole exponent, rest)

/-! ## All tokens -/

/-- The words that stand for values. -/
def word? (bytes : List UInt8) : Option (Json × List UInt8) :=
  ((afterWord? "null".toList bytes).map (Json.null, ·)).or <|
    ((afterWord? "true".toList bytes).map (Json.boolean true, ·)).or <|
      (afterWord? "false".toList bytes).map (Json.boolean false, ·)

/-- The token at the start of the bytes, which do not start with a blank. -/
def token? (bytes : List UInt8) : Option (Token × List UInt8) :=
  match bytes with
  | [] => none
  | 0x5B :: rest => some (.openBracket, rest)
  | 0x5D :: rest => some (.closeBracket, rest)
  | 0x7B :: rest => some (.openBrace, rest)
  | 0x7D :: rest => some (.closeBrace, rest)
  | 0x2C :: rest => some (.comma, rest)
  | 0x3A :: rest => some (.colon, rest)
  | 0x22 :: rest => (stringFrom? (some []) rest).map fun (value, after) => (.text value, after)
  | 0x2D :: rest => (number? true rest).map fun (value, after) => (.scalar value, after)
  | byte :: rest =>
      if isDigitByte byte then
        (number? false (byte :: rest)).map fun (value, after) => (.scalar value, after)
      else (word? (byte :: rest)).map fun (value, after) => (.scalar value, after)

/-! ## What is left is shorter -/

theorem digitsOf_length (bytes : List UInt8) :
    (digitsOf bytes).2.length ≤ bytes.length :=
  (List.dropWhile_sublist isDigitByte).length_le

theorem digitsOf_shorter {bytes : List UInt8} (nonempty : (digitsOf bytes).1.isEmpty = false) :
    (digitsOf bytes).2.length < bytes.length := by
  cases bytes with
  | nil => simp [digitsOf] at nonempty
  | cons byte rest =>
      by_cases digit : isDigitByte byte = true
      · have shorter := (List.dropWhile_sublist isDigitByte (l := rest)).length_le
        simp only [digitsOf, List.dropWhile_cons, digit, ↓reduceIte, List.length_cons]
        omega
      · simp [digitsOf, digit] at nonempty

theorem signOf_length (bytes : List UInt8) : (signOf bytes).2.length ≤ bytes.length := by
  unfold signOf
  split
  · exact Nat.le_succ _
  · exact Nat.le_succ _
  · exact Nat.le_refl _

theorem exponent?_length {bytes rest : List UInt8} {size : Option Int}
    (read : exponent? bytes = some (size, rest)) : rest.length ≤ bytes.length := by
  unfold exponent? at read
  split at read
  · simp only [Option.some.injEq, Prod.mk.injEq] at read
    exact Nat.le_of_eq (congrArg List.length read.2.symm)
  · next byte behind =>
      have shorter := signOf_length behind
      have further := digitsOf_length (signOf behind).2
      split at read
      · simp only at read
        split at read
        · contradiction
        · simp only [Option.some.injEq, Prod.mk.injEq] at read
          rw [← read.2]
          exact Nat.le_succ_of_le (Nat.le_trans further shorter)
      · simp only [Option.some.injEq, Prod.mk.injEq] at read
        exact Nat.le_of_eq (congrArg List.length read.2.symm)

theorem number?_length {negative : Bool} {bytes rest : List UInt8} {value : Json}
    (read : number? negative bytes = some (value, rest)) : rest.length < bytes.length := by
  unfold number? at read
  simp only at read
  split at read
  · contradiction
  · next numeral =>
      have whole : (digitsOf bytes).1.isEmpty = false := by
        cases empty : (digitsOf bytes).1.isEmpty with
        | false => rfl
        | true => simp [empty] at numeral
      have shorter := digitsOf_shorter whole
      split at read
      · next behindPoint point =>
          rw [point] at shorter
          have further := digitsOf_length behindPoint
          simp only [List.length_cons] at shorter
          split at read
          · contradiction
          · obtain ⟨⟨exponent, behind⟩, found, same⟩ := Option.map_eq_some_iff.1 read
            simp only [Prod.mk.injEq] at same
            have last := exponent?_length found
            rw [← same.2]
            omega
      · obtain ⟨⟨exponent, behind⟩, found, same⟩ := Option.map_eq_some_iff.1 read
        simp only [Prod.mk.injEq] at same
        have last := exponent?_length found
        rw [← same.2]
        omega

theorem afterWord?_length {word : List Char} {bytes rest : List UInt8}
    (read : afterWord? word bytes = some rest) : rest.length + word.length = bytes.length := by
  fun_induction afterWord? word bytes with
  | case1 bytes =>
      simp only [Option.some.injEq] at read
      rw [read]
      rfl
  | case2 => contradiction
  | case3 word byte bytes inductionHypothesis =>
      have shorter := inductionHypothesis read
      simp only [List.length_cons]
      omega
  | case4 => contradiction

theorem word?_length {bytes rest : List UInt8} {value : Json}
    (read : word? bytes = some (value, rest)) : rest.length < bytes.length := by
  have shorter : ∀ (name : String) (word : Json), name.toList ≠ [] →
      (afterWord? name.toList bytes).map (word, ·) = some (value, rest) →
      rest.length < bytes.length := by
    intro name word nonempty found
    obtain ⟨behind, after, same⟩ := Option.map_eq_some_iff.1 found
    simp only [Prod.mk.injEq] at same
    have size := afterWord?_length after
    have positive := List.length_pos_iff.2 nonempty
    rw [← same.2]
    omega
  unfold word? at read
  rcases Option.or_eq_some_iff.1 read with null | ⟨-, others⟩
  · exact shorter _ _ (by decide) null
  · rcases Option.or_eq_some_iff.1 others with true | ⟨-, false⟩
    · exact shorter _ _ (by decide) true
    · exact shorter _ _ (by decide) false

theorem token?_length {bytes rest : List UInt8} {token : Token}
    (read : token? bytes = some (token, rest)) : rest.length < bytes.length := by
  unfold token? at read
  split at read
  · contradiction
  case h_8 behind =>
    obtain ⟨⟨value, after⟩, found, same⟩ := Option.map_eq_some_iff.1 read
    simp only [Prod.mk.injEq] at same
    have shorter := stringFrom?_length found
    rw [← same.2]
    simp only [List.length_cons]
    omega
  case h_9 behind =>
    obtain ⟨⟨value, after⟩, found, same⟩ := Option.map_eq_some_iff.1 read
    simp only [Prod.mk.injEq] at same
    have shorter := number?_length found
    rw [← same.2]
    simp only [List.length_cons]
    omega
  case h_10 =>
    split at read
    · obtain ⟨⟨value, after⟩, found, same⟩ := Option.map_eq_some_iff.1 read
      simp only [Prod.mk.injEq] at same
      rw [← same.2]
      exact number?_length found
    · obtain ⟨⟨value, after⟩, found, same⟩ := Option.map_eq_some_iff.1 read
      simp only [Prod.mk.injEq] at same
      rw [← same.2]
      exact word?_length found
  all_goals
    simp only [Option.some.injEq, Prod.mk.injEq] at read
    rw [← read.2]
    simp only [List.length_cons]
    omega
end PipelineRegistry.Json
