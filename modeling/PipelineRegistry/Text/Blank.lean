/-!
# Blank characters

The characters with the White_Space property, trimming by them, and texts that hold nothing else.
-/

namespace PipelineRegistry.Text

/-- The characters with the Unicode property White_Space. -/
def isBlank (c : Char) : Bool :=
  let code := c.toNat
  (9 ≤ code && code ≤ 13) || code == 0x20 || code == 0x85 || code == 0xA0 || code == 0x1680 ||
    (0x2000 ≤ code && code ≤ 0x200A) || code == 0x2028 || code == 0x2029 || code == 0x202F ||
    code == 0x205F || code == 0x3000

/-- A list of characters without the blanks at its two ends. -/
def trimChars (cs : List Char) : List Char :=
  ((cs.dropWhile isBlank).reverse.dropWhile isBlank).reverse

/-- A text without the blanks at its two ends. -/
def trim (text : String) : String :=
  String.ofList (trimChars text.toList)

/-- A text is blank when it holds blanks only; the empty text is blank. -/
def isBlankText (text : String) : Bool :=
  text.toList.all isBlank

/-! ## ASCII case -/

/-- The capital of an ASCII letter; every other character is kept. -/
def upperAscii (c : Char) : Char :=
  if 'a'.toNat ≤ c.toNat && c.toNat ≤ 'z'.toNat then Char.ofNat (c.toNat - 32) else c

/-- The small form of an ASCII letter; every other character is kept. -/
def lowerAscii (c : Char) : Char :=
  if 'A'.toNat ≤ c.toNat && c.toNat ≤ 'Z'.toNat then Char.ofNat (c.toNat + 32) else c

/-- A text with its ASCII letters made capitals. -/
def upper (text : String) : String :=
  String.ofList (text.toList.map upperAscii)

/-- A text with its ASCII letters made small. -/
def lower (text : String) : String :=
  String.ofList (text.toList.map lowerAscii)

end PipelineRegistry.Text
