import PipelineRegistry.Text.Blank
import PipelineRegistry.Text.Percent
import PipelineRegistry.Url.Punycode

/-!
# Hosts

The host of an address is a name, or a number of 32 or of 128 bits. Schemes that are known have
hosts whose names are put into one form; the hosts of other schemes are only percent encoded.
-/

namespace PipelineRegistry.Url

open PipelineRegistry.Text

/-- A host. The parts of an address of 128 bits are numbers of 16 bits. -/
inductive Host
  | name (text : String)
  | ipv4 (address : Nat)
  | ipv6 (parts : List Nat)
  deriving DecidableEq, Repr

namespace Host

/-! ## Addresses of 32 bits -/

/-- A part of such an address, in hexadecimal, octal or decimal digits. -/
def ipv4Number? (part : List Char) : Option Nat :=
  match part with
  | [] => none
  | '0' :: 'x' :: rest | '0' :: 'X' :: rest => Hex.value? rest
  | '0' :: digit :: rest =>
      if (digit :: rest).all fun c => '0' ≤ c && c ≤ '7' then
        some ((digit :: rest).foldl (fun sum c => sum * 8 + Decimal.digitValue c) 0)
      else none
  | _ => if Decimal.isNumeral part then some (Decimal.value part) else none

/-- The parts of a name between its dots. One dot at the end does not count. -/
def dottedParts (name : List Char) : List (List Char) :=
  let parts := name.splitOn '.'
  if 1 < parts.length && parts.getLast? = some [] then parts.dropLast else parts

/-- A name whose last part is a number can only be an address. -/
def endsInNumber (name : List Char) : Bool :=
  match (dottedParts name).getLast? with
  | some last => Decimal.isNumeral last || (ipv4Number? last).isSome
  | none => false

/-- The address of up to four numbers. All but the last stand for one byte each. -/
def joinNumbers? : List Nat → Nat → Option Nat
  | [], _ => none
  | [last], remaining => if last < 1 <<< (8 * remaining) then some last else none
  | first :: rest, remaining =>
      if first < 256 && 1 < remaining then
        (joinNumbers? rest (remaining - 1)).map (first <<< (8 * (remaining - 1)) + ·)
      else none

/-- The address that a dotted name stands for. -/
def ipv4? (name : List Char) : Option Nat := do
  joinNumbers? (← (dottedParts name).mapM ipv4Number?) 4

/-- The address as four decimal numbers. -/
def ipv4Text (address : Nat) : String :=
  ".".intercalate ([24, 16, 8, 0].map fun shift => Decimal.ofNat ((address >>> shift) % 256))

/-! ## Addresses of 128 bits -/

/-- One of four decimal numbers at the end of such an address; it has no leading zeros. -/
def ipv6Decimal? (part : List Char) : Option Nat :=
  if part.head? = some '0' && part ≠ ['0'] then none else Decimal.natural? 255 part

/-- The two parts that four decimal numbers with dots stand for. -/
def ipv6Tail? (text : List Char) : Option (List Nat) := do
  match ← (text.splitOn '.').mapM ipv6Decimal? with
  | [a, b, c, d] => some [a * 256 + b, c * 256 + d]
  | _ => none

/-- Parts with colons between them. The last may be four decimal numbers with dots. -/
def ipv6Parts? : List (List Char) → Option (List Nat)
  | [] => some []
  | piece :: rest =>
      if rest.isEmpty && piece.contains '.' then ipv6Tail? piece
      else if piece.isEmpty || 4 < piece.length then none
      else do return (← Hex.value? piece) :: (← ipv6Parts? rest)

/-- The parts of one side of a gap. -/
def ipv6Side? (side : List Char) : Option (List Nat) :=
  if side.isEmpty then some [] else ipv6Parts? (side.splitOn ':')

/-- Splits a text at the first two colons. -/
def splitGap : List Char → Option (List Char × List Char)
  | ':' :: ':' :: rest => some ([], rest)
  | c :: rest => (splitGap rest).map fun (before, behind) => (c :: before, behind)
  | [] => none

/-- The eight parts of an address. Two colons stand for the zeros that are left out. -/
def ipv6? (text : List Char) : Option (List Nat) :=
  match splitGap text with
  | none => (ipv6Side? text).bind fun parts => if parts.length = 8 then some parts else none
  | some (before, behind) =>
      if before.contains '.' then none
      else do
        let left ← ipv6Side? before
        let right ← ipv6Side? behind
        if left.length + right.length ≤ 7 then
          some (left ++ List.replicate (8 - left.length - right.length) 0 ++ right)
        else none

/-- The length of the run of zeros at the start of a list. -/
def zeroRun (parts : List Nat) : Nat :=
  (parts.takeWhile (· = 0)).length

/-- The start and the length of the longest run of zeros, the first of several. -/
def longestRun (parts : List Nat) : Nat × Nat :=
  (List.range parts.length).foldl
    (fun best start =>
      let run := zeroRun (parts.drop start)
      if best.2 < run then (start, run) else best)
    (0, 0)

/-- Parts as text with colons between them. -/
def colonSeparated (parts : List Nat) : List Char :=
  [':'].intercalate (parts.map Hex.digits)

/-- An address as text. The longest run of at least two zeros is left out. -/
def ipv6Text (parts : List Nat) : String :=
  let (start, run) := longestRun parts
  let inner :=
    if run < 2 then colonSeparated parts
    else
      colonSeparated (parts.take start) ++ [':', ':'] ++ colonSeparated (parts.drop (start + run))
  String.ofList ('[' :: (inner ++ [']']))

/-! ## Hosts as text -/

/-- A host as it stands in an address. -/
def text : Host → String
  | name text => text
  | ipv4 address => ipv4Text address
  | ipv6 parts => ipv6Text parts

/-- An address of 128 bits stands in brackets. -/
def bracketed? (text : List Char) : Option Host :=
  if text.getLast? = some ']' then (ipv6? (text.drop 1).dropLast).map ipv6 else none

/-- A label of a name in small letters. Characters outside ASCII are encoded. -/
def label (text : List Char) : List Char :=
  if text.all fun c => c.toNat < 0x80 then text.map lowerAscii
  else "xn--".toList ++ Punycode.encode (text.map lowerAscii)

/-- A name with each of its labels in its form. Two wide full stops count as dots. -/
def normalize (text : List Char) : List Char :=
  let dotted := text.map fun c => if c = '\u3002' || c = '\uff0e' then '.' else c
  ['.'].intercalate ((dotted.splitOn '.').map label)

/-- Characters that no name of a host may hold. -/
def isForbidden (c : Char) : Bool :=
  c.toNat < 0x20 || c = '\x7f' || " #%/:<>?@[\\]^|".toList.contains c

/-- The host of a scheme that is known. -/
def ofText? (text : List Char) : Option Host :=
  if text.head? = some '[' then bracketed? text
  else do
    let decoded ← Percent.decode? text
    let normal := normalize decoded.toList
    if normal.isEmpty || normal.any isForbidden then none
    else if endsInNumber normal then (ipv4? normal).map ipv4
    else some (name (String.ofList normal))

/-- Controls, which are encoded everywhere in an address. -/
def isControl (c : Char) : Bool :=
  c.toNat < 0x20 || c = '\x7f'

/-- The host of a scheme that is not known, which may be empty. -/
def ofPlainText? (text : List Char) : Option Host :=
  if text.head? = some '[' then bracketed? text
  else if text.any fun c => c = '\x00' || " #/:<>?@[\\]^|".toList.contains c then none
  else some (name (String.ofList (Percent.encode (fun c => !isControl c) text)))

end Host

end PipelineRegistry.Url
