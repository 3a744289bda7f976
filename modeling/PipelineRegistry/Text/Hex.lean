/-!
# Hexadecimal digits
-/

namespace PipelineRegistry.Text.Hex

/-- The small hexadecimal digit for a number below sixteen. -/
def lowerDigit (n : Nat) : Char :=
  Char.ofNat (if n < 10 then '0'.toNat + n else 'a'.toNat + (n - 10))

/-- The capital hexadecimal digit for a number below sixteen. -/
def upperDigit (n : Nat) : Char :=
  Char.ofNat (if n < 10 then '0'.toNat + n else 'A'.toNat + (n - 10))

/-- The hexadecimal digits of a number, the most significant first and zero as one digit. -/
def digits (n : Nat) : List Char :=
  if n < 16 then [lowerDigit n] else digits (n / 16) ++ [lowerDigit (n % 16)]
termination_by n

/-- The last hexadecimal digits of a number, as many as the width says. -/
def fixed : Nat → Nat → List Char
  | 0, _ => []
  | width + 1, n => fixed width (n / 16) ++ [lowerDigit (n % 16)]

/-- The number that a hexadecimal digit of either case stands for. -/
def digitValue? (c : Char) : Option Nat :=
  let code := c.toNat
  if '0'.toNat ≤ code && code ≤ '9'.toNat then some (code - '0'.toNat)
  else if 'a'.toNat ≤ code && code ≤ 'f'.toNat then some (code - 'a'.toNat + 10)
  else if 'A'.toNat ≤ code && code ≤ 'F'.toNat then some (code - 'A'.toNat + 10)
  else none

/-- The number that a list of hexadecimal digits denotes, or none if one of them is no digit. -/
def value? (numeral : List Char) : Option Nat :=
  numeral.foldlM (fun sum c => (digitValue? c).map (sum * 16 + ·)) 0

end PipelineRegistry.Text.Hex
