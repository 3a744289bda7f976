import PipelineRegistry.Text.Decimal
import PipelineRegistry.Text.Hex

/-!
# Lexemes of JSONPath

Names, integers, slices, quoted strings and number literals. Each function gives what is left of the
text behind the lexeme, or nothing if the text does not start with one.
-/

namespace PipelineRegistry.ColumnPath.JsonPath

open PipelineRegistry.Text

/-! ## Characters -/

/-- Blanks are the four of JSON. -/
def isBlank (c : Char) : Bool :=
  c == ' ' || c == '\t' || c == '\n' || c == '\r'

/-- The text without the blanks it starts with. -/
def skipBlanks (text : List Char) : List Char :=
  text.dropWhile isBlank

theorem length_skipBlanks_le (text : List Char) : (skipBlanks text).length ≤ text.length :=
  (List.dropWhile_suffix isBlank).length_le

/-- A shorthand name starts with a letter, an underscore or any character outside ASCII. -/
def isNameStart (c : Char) : Bool :=
  let code := c.toNat
  (0x41 ≤ code && code ≤ 0x5A) || (0x61 ≤ code && code ≤ 0x7A) || code == 0x5F || 0x80 ≤ code

/-- Digits may stand behind the first character of a shorthand name. -/
def isNameChar (c : Char) : Bool :=
  isNameStart c || Decimal.isDigit c

/-- The digits from one to nine. -/
def isNonZeroDigit (c : Char) : Bool :=
  Decimal.isDigit c && c != '0'

/-! ## Names and integers -/

/-- A shorthand name. -/
def afterName? : List Char → Option (List Char)
  | [] => none
  | c :: rest => if isNameStart c then some (rest.dropWhile isNameChar) else none

/-- The largest integer that a binary64 number and all its neighbours tell apart. -/
def integerLimit : Nat :=
  (1 <<< 53) - 1

/-- Digits that start with one to nine, with the digits themselves. -/
def positive? : List Char → Option (List Char × List Char)
  | [] => none
  | c :: rest =>
      if isNonZeroDigit c then
        some (c :: rest.takeWhile Decimal.isDigit, rest.dropWhile Decimal.isDigit)
      else none

/-- An index: zero, or a number without leading zeros and with an optional minus sign, whose size is
within the limit. -/
def afterInteger? (text : List Char) : Option (List Char) :=
  match text with
  | '0' :: rest => some rest
  | '-' :: rest => bounded (positive? rest)
  | text => bounded (positive? text)
where
  bounded : Option (List Char × List Char) → Option (List Char)
    | none => none
    | some (numeral, rest) =>
        if Decimal.value numeral ≤ integerLimit then some rest else none

/-- A slice: start, end and step are optional, the first colon is not. -/
def afterSlice? (text : List Char) : Option (List Char) :=
  let bound (text : List Char) : List Char :=
    match afterInteger? text with
    | some rest => skipBlanks rest
    | none => text
  match bound text with
  | ':' :: rest =>
      match bound (skipBlanks rest) with
      | ':' :: stepText => some ((afterInteger? (skipBlanks stepText)).getD stepText)
      | after => some after
  | _ => none

/-! ## Quoted strings -/

/-- What a text that may start with a quoted string is. -/
inductive Quotation
  | absent
  | closed (rest : List Char)
  | broken
  deriving DecidableEq, Repr

/-- The number of four hexadecimal digits at the start of a text. -/
def hexQuad? : List Char → Option (Nat × List Char)
  | a :: b :: c :: d :: rest => (Hex.value? [a, b, c, d]).map (·, rest)
  | _ => none

/-- The second half of a surrogate pair, behind the first. -/
def afterLowSurrogate? : List Char → Option (List Char)
  | '\\' :: 'u' :: rest =>
      match hexQuad? rest with
      | some (code, after) => if 0xDC00 ≤ code && code ≤ 0xDFFF then some after else none
      | none => none
  | _ => none

/-- A code point written by four hexadecimal digits, or by a surrogate pair whose first half has
capitals where the pair is told apart. -/
def afterCodePoint? (text : List Char) : Option (List Char) :=
  match hexQuad? text with
  | none => none
  | some (code, rest) =>
      if code < 0xD800 || 0xDFFF < code then some rest
      else
        match text with
        | 'D' :: c :: _ =>
            if c == '8' || c == '9' || c == 'A' || c == 'B' then afterLowSurrogate? rest else none
        | _ => none

/-- One escape, behind its backslash. -/
def afterEscape? (mark : Char) : List Char → Option (List Char)
  | [] => none
  | 'u' :: rest => afterCodePoint? rest
  | c :: rest => if c == mark || "btnfr/\\".toList.contains c then some rest else none

/-- Reads up to the closing quote. Controls and unknown escapes break the string, and so does the
end of the text. -/
def afterQuoted (mark : Char) (text : List Char) : Quotation :=
  match text with
  | [] => .broken
  | c :: rest =>
      if c == mark then .closed rest
      else if c == '\\' then
        match afterEscape? mark rest with
        | none => .broken
        | some after => if after.length ≤ rest.length then afterQuoted mark after else .broken
      else if c.toNat < 0x20 then .broken
      else afterQuoted mark rest
termination_by text.length
decreasing_by
  all_goals simp only [List.length_cons]
  all_goals omega

/-- A string in single or double quotes. -/
def quotation : List Char → Quotation
  | '"' :: rest => afterQuoted '"' rest
  | '\'' :: rest => afterQuoted '\'' rest
  | _ => .absent

/-! ## Number literals -/

/-- Numbers at or beyond this bound round to infinity. -/
def overflowBound : Nat :=
  (1 <<< 1024) - (1 <<< 970)

/-- A significand times a power of ten is too large for a binary64 number. -/
def overflows (significand : Nat) (exponent : Int) : Bool :=
  if significand = 0 then false
  else
    let magnitude : Int := (Decimal.digits significand).length + exponent
    if magnitude < 300 then false
    else if 400 < magnitude then true
    else if 0 ≤ exponent then overflowBound ≤ significand * Nat.pow 10 exponent.toNat
    else overflowBound * Nat.pow 10 (-exponent).toNat ≤ significand

/-- The whole part of a number literal. Unlike an index it may be a negative zero. -/
def wholePart? : List Char → Option (List Char × List Char)
  | '0' :: rest => some (['0'], rest)
  | '-' :: '0' :: rest => some (['0'], rest)
  | '-' :: rest => positive? rest
  | text => positive? text

/-- The fraction of a number literal, if a point with a digit follows. -/
def fractionPart : List Char → List Char × List Char
  | '.' :: c :: rest =>
      if Decimal.isDigit c then
        (c :: rest.takeWhile Decimal.isDigit, rest.dropWhile Decimal.isDigit)
      else ([], '.' :: c :: rest)
  | text => ([], text)

/-- The exponent of a number literal; without digits behind its mark it is no exponent. -/
def exponentPart? (text : List Char) : Option (Int × List Char) :=
  match text with
  | mark :: rest =>
      if mark == 'e' || mark == 'E' then
        match rest with
        | '-' :: numeral => (magnitude? numeral).map fun (n, after) => (-n, after)
        | '+' :: numeral => magnitude? numeral
        | numeral => magnitude? numeral
      else some (0, text)
  | [] => some (0, [])
where
  magnitude? (text : List Char) : Option (Int × List Char) :=
    let numeral := text.takeWhile Decimal.isDigit
    if numeral.isEmpty then none
    else some (Decimal.value numeral, text.dropWhile Decimal.isDigit)

/-- A number literal that a binary64 number can hold. -/
def afterNumber? (text : List Char) : Option (List Char) := do
  let (whole, behindWhole) ← wholePart? text
  let (fraction, behindFraction) := fractionPart behindWhole
  let (exponent, rest) ← exponentPart? behindFraction
  if overflows (Decimal.value (whole ++ fraction)) (exponent - fraction.length) then none
  else some rest

/-- A given word at the start of the text. -/
def afterWord? : List Char → List Char → Option (List Char)
  | [], text => some text
  | _ :: _, [] => none
  | w :: word, c :: text => if w = c then afterWord? word text else none

/-- The comparison operators; of two where one starts the other, the longer comes first. -/
def comparisonOperators : List String :=
  ["==", "!=", "<=", ">=", "<", ">"]

/-- A comparison operator. -/
def afterComparison? (text : List Char) : Option (List Char) :=
  comparisonOperators.findSome? fun operator => afterWord? operator.toList text

/-- The words that are literals. -/
def literalWords : List String :=
  ["true", "false", "null"]

/-- A string, a number, or one of the words. -/
def literal (text : List Char) : Quotation :=
  match quotation text with
  | .absent =>
      match afterNumber? text <|> literalWords.findSome? (afterWord? ·.toList text) with
      | some rest => .closed rest
      | none => .absent
  | other => other

/-! ## Singular queries -/

/-- One step of a query that names at most one node: a name, a quoted name or an index. Nothing is
answered if no such step follows, and a broken step if one starts but does not end. -/
def singularStep (text : List Char) : Quotation :=
  match text with
  | '.' :: rest =>
      match afterName? rest with
      | some after => .closed after
      | none => .broken
  | '[' :: rest =>
      match quotation rest with
      | .broken => .broken
      | .closed (']' :: after) => .closed after
      | .closed _ => .absent
      | .absent =>
          match afterInteger? rest with
          | some (']' :: after) => .closed after
          | _ => .absent
  | _ => .absent

/-- The steps of a query that names at most one node, with blanks allowed before each, or nothing if
one of them is broken. -/
def afterSingularSteps? (text : List Char) : Option (List Char) :=
  match singularStep (skipBlanks text) with
  | .absent => some text
  | .broken => none
  | .closed rest =>
      if rest.length < text.length then afterSingularSteps? rest else some rest
termination_by text.length

/-- A query from the root or the current node that names at most one node. -/
def afterSingularQuery? : List Char → Option (List Char)
  | '$' :: rest => afterSingularSteps? rest
  | '@' :: rest => afterSingularSteps? rest
  | _ => none

/-! ## Function names -/

/-- A function name has at least two characters, small letters, digits and underscores, and starts
with a letter. The opening parenthesis must follow directly. -/
def functionName? : List Char → Option (String × List Char)
  | first :: second :: rest =>
      if isFirst first && isLater second then
        match rest.dropWhile isLater with
        | '(' :: after => some (String.ofList (first :: second :: rest.takeWhile isLater), after)
        | _ => none
      else none
  | _ => none
where
  isFirst (c : Char) : Bool := 'a'.toNat ≤ c.toNat && c.toNat ≤ 'z'.toNat
  isLater (c : Char) : Bool := isFirst c || Decimal.isDigit c || c == '_'

end PipelineRegistry.ColumnPath.JsonPath
