/-!
# XPath tokens

An expression is cut into tokens from left to right. Whether `and`, `or`, `mod`, `div` and `*` are
operators or names depends on the token before them: they are operators after anything that can end
an operand. `scan?` reads a whole text; it has no answer when some part of the text starts no token.
-/

namespace PipelineRegistry.ColumnPath.XPath

/-- The tokens of an expression. Binary operators that the grammar treats alike are one token. -/
inductive Token
  | slash
  | doubleSlash
  | openParen
  | closeParen
  | openBracket
  | closeBracket
  | comma
  | attributeSign
  | bar
  | minus
  | binary
  | dot
  | doubleDot
  | axis
  | nodeTest
  | function
  | name
  | variable
  | literal
  | number
  deriving DecidableEq, Repr

/-! ## Characters -/

/-- Space inside an expression is one of the four XML blanks. -/
def isSpace (c : Char) : Bool :=
  c == ' ' || c == '\t' || c == '\r' || c == '\n'

/-- The characters that may start an XML name without a colon. -/
def isNameStart (c : Char) : Bool :=
  let code := c.toNat
  let within (low high : Nat) : Bool := low ≤ code && code ≤ high
  within 0x41 0x5A || code == 0x5F || within 0x61 0x7A || within 0xC0 0xD6 || within 0xD8 0xF6 ||
    within 0xF8 0x2FF || within 0x370 0x37D || within 0x37F 0x1FFF || within 0x200C 0x200D ||
    within 0x2070 0x218F || within 0x2C00 0x2FEF || within 0x3001 0xD7FF ||
    within 0xF900 0xFDCF || within 0xFDF0 0xFFFD || within 0x10000 0xEFFFF

/-- The characters that may go on in an XML name without a colon. -/
def isNameChar (c : Char) : Bool :=
  let code := c.toNat
  isNameStart c || code == 0x2D || code == 0x2E || (0x30 ≤ code && code ≤ 0x39) ||
    code == 0xB7 || (0x300 ≤ code && code ≤ 0x36F) || (0x203F ≤ code && code ≤ 0x2040)

/-- Numbers are written with ASCII digits. -/
def isNumberChar (c : Char) : Bool :=
  '0'.toNat ≤ c.toNat && c.toNat ≤ '9'.toNat

/-! ## Parts of tokens

Each function gives what is left of the text after the part, or nothing if the part is not there. -/

/-- A given word at the start of the text. -/
def afterWord? : List Char → List Char → Option (List Char)
  | [], text => some text
  | _ :: _, [] => none
  | w :: word, c :: text => if w = c then afterWord? word text else none

/-- A name without a colon. -/
def afterPlainName? : List Char → Option (List Char)
  | [] => none
  | c :: rest => if isNameStart c then some (rest.dropWhile isNameChar) else none

/-- A name with at most one prefix. -/
def afterName? (text : List Char) : Option (List Char) :=
  (afterPlainName? text).map fun rest =>
    match rest with
    | ':' :: localPart => (afterPlainName? localPart).getD rest
    | _ => rest

/-- Text in single or double quotes, which cannot hold the quote it starts with. -/
def afterLiteral? : List Char → Option (List Char)
  | [] => none
  | mark :: rest =>
      if mark == '"' || mark == '\'' then
        match rest.dropWhile (· != mark) with
        | [] => none
        | _ :: after => some after
      else none

/-- Digits with an optional fraction, or a fraction alone. -/
def afterNumber? (text : List Char) : Option (List Char) :=
  match text with
  | '.' :: c :: rest => if isNumberChar c then some (rest.dropWhile isNumberChar) else none
  | c :: rest =>
      if isNumberChar c then
        match rest.dropWhile isNumberChar with
        | '.' :: fraction => some (fraction.dropWhile isNumberChar)
        | after => some after
      else none
  | [] => none

/-- The axis names; of two where one starts the other, the longer comes first. -/
def axisNames : List String :=
  ["ancestor-or-self", "ancestor", "attribute", "child", "descendant-or-self", "descendant",
    "following-sibling", "following", "namespace", "parent", "preceding-sibling", "preceding",
    "self"]

/-- An axis name and the two colons directly after it. -/
def afterAxis? (text : List Char) : Option (List Char) :=
  (axisNames.findSome? fun axis => afterWord? axis.toList text).bind (afterWord? [':', ':'])

/-- The node tests that take no argument. -/
def nodeTestNames : List String :=
  ["comment", "text", "processing-instruction", "node"]

/-- A node test with its parentheses, inside which only a processing instruction may have a
literal. -/
def afterNodeTest? (text : List Char) : Option (List Char) :=
  (nodeTestNames.findSome? fun test =>
      (afterWord? test.toList text).bind (afterWord? ['(', ')'])) <|>
    (do
      let argument ← afterWord? "processing-instruction(".toList text
      let closing ← afterLiteral? argument
      afterWord? [')'] closing)

/-- The words that are operators in operator position, even when a name goes on after them. -/
def operatorWords : List String :=
  ["and", "or", "mod", "div", "*"]

/-! ## Whole tokens -/

/-- The tokens of two characters. -/
def doubleMark? : List Char → Option (Token × List Char)
  | '<' :: '=' :: rest => some (.binary, rest)
  | '>' :: '=' :: rest => some (.binary, rest)
  | '!' :: '=' :: rest => some (.binary, rest)
  | '/' :: '/' :: rest => some (.doubleSlash, rest)
  | '.' :: '.' :: rest => some (.doubleDot, rest)
  | _ => none

/-- The tokens of one character, the dot apart. -/
def singleMark? : List Char → Option (Token × List Char)
  | '/' :: rest => some (.slash, rest)
  | '(' :: rest => some (.openParen, rest)
  | ')' :: rest => some (.closeParen, rest)
  | '[' :: rest => some (.openBracket, rest)
  | ']' :: rest => some (.closeBracket, rest)
  | '@' :: rest => some (.attributeSign, rest)
  | '+' :: rest => some (.binary, rest)
  | '-' :: rest => some (.minus, rest)
  | '|' :: rest => some (.bar, rest)
  | '=' :: rest => some (.binary, rest)
  | '<' :: rest => some (.binary, rest)
  | '>' :: rest => some (.binary, rest)
  | ',' :: rest => some (.comma, rest)
  | _ => none

/-- A dot that starts neither a number nor a double dot. -/
def dot? : List Char → Option (Token × List Char)
  | '.' :: rest => some (.dot, rest)
  | _ => none

/-- A word operator, which exists in operator position only. -/
def wordOperator? (operatorPosition : Bool) (text : List Char) : Option (Token × List Char) :=
  if operatorPosition then
    (operatorWords.findSome? fun word => afterWord? word.toList text).map (Token.binary, ·)
  else none

/-- A name that an opening parenthesis follows directly; the parenthesis is not part of it. -/
def function? (text : List Char) : Option (Token × List Char) :=
  match afterName? text with
  | some ('(' :: rest) => some (.function, '(' :: rest)
  | _ => none

/-- A name test: a star, a prefix with a star, or a name. -/
def name? (text : List Char) : Option (Token × List Char) :=
  match text with
  | '*' :: rest => some (.name, rest)
  | _ =>
      match afterPlainName? text with
      | some (':' :: '*' :: rest) => some (.name, rest)
      | _ => (afterName? text).map (Token.name, ·)

/-- A dollar sign and a name. -/
def variableName? : List Char → Option (Token × List Char)
  | '$' :: rest => (afterName? rest).map (Token.variable, ·)
  | _ => none

/-- The token at the start of the text, by the first rule that applies. -/
def next? (operatorPosition : Bool) (text : List Char) : Option (Token × List Char) :=
  doubleMark? text <|>
    singleMark? text <|>
    (afterLiteral? text).map (Token.literal, ·) <|>
    (afterNumber? text).map (Token.number, ·) <|>
    dot? text <|>
    wordOperator? operatorPosition text <|>
    (afterAxis? text).map (Token.axis, ·) <|>
    (afterNodeTest? text).map (Token.nodeTest, ·) <|>
    function? text <|>
    name? text <|>
    variableName? text

/-- After these tokens an operand is still to come, so that no word operator can follow. -/
def Token.expectsOperand : Token → Bool
  | .attributeSign | .axis | .openParen | .openBracket => true
  | .slash | .doubleSlash | .minus | .bar | .binary => true
  | _ => false

/-! ## Scanning -/

/-- Cuts a text into tokens, with spaces before and after each. Every token is at least one
character long; a token that left no less text would end the scan. -/
def scanFrom? (operatorPosition : Bool) (text : List Char) : Option (List Token) :=
  if text.isEmpty then some []
  else
    match next? operatorPosition (text.dropWhile isSpace) with
    | none => none
    | some (token, rest) =>
        if (rest.dropWhile isSpace).length < text.length then
          (scanFrom? (!token.expectsOperand) (rest.dropWhile isSpace)).map (token :: ·)
        else none
termination_by text.length

/-- The tokens of a whole text. At its start an operand is expected. -/
def scan? (text : List Char) : Option (List Token) :=
  scanFrom? false text

/-! ## Abbreviations -/

/-- The full form of an abbreviated step. -/
def Token.expand : Token → List Token
  | .attributeSign => [.axis]
  | .doubleSlash => [.slash, .axis, .nodeTest, .slash]
  | .dot => [.axis, .nodeTest]
  | .doubleDot => [.axis, .nodeTest]
  | token => [token]

end PipelineRegistry.ColumnPath.XPath
