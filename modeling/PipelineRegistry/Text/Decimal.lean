/-!
# Decimal numerals

A numeral is a list of the characters `0` to `9`. `digits` writes a number without leading zeros,
`value` reads any list of digits, and `bounded?` reads one digit at a time while it stays within a
limit. The main statements are `value_digits`, that what is written reads back, and
`bounded?_eq_some_iff`, that the guarded reading fails exactly on the numbers above its limit.
-/

namespace PipelineRegistry.Text.Decimal

/-! ## Digits -/

/-- The decimal digits are the ten ASCII ones and no others. -/
def isDigit (c : Char) : Bool :=
  '0'.toNat ≤ c.toNat && c.toNat ≤ '9'.toNat

/-- The number that a digit stands for. -/
def digitValue (c : Char) : Nat :=
  c.toNat - '0'.toNat

/-- The character for a number below ten. -/
def digit (n : Nat) : Char :=
  Char.ofNat ('0'.toNat + n)

theorem isDigit_digit {n : Nat} (small : n < 10) : isDigit (digit n) = true := by
  have cases : n = 0 ∨ n = 1 ∨ n = 2 ∨ n = 3 ∨ n = 4 ∨ n = 5 ∨ n = 6 ∨ n = 7 ∨ n = 8 ∨ n = 9 := by
    omega
  rcases cases with rfl | rfl | rfl | rfl | rfl | rfl | rfl | rfl | rfl | rfl <;> decide

theorem digitValue_digit {n : Nat} (small : n < 10) : digitValue (digit n) = n := by
  have cases : n = 0 ∨ n = 1 ∨ n = 2 ∨ n = 3 ∨ n = 4 ∨ n = 5 ∨ n = 6 ∨ n = 7 ∨ n = 8 ∨ n = 9 := by
    omega
  rcases cases with rfl | rfl | rfl | rfl | rfl | rfl | rfl | rfl | rfl | rfl <;> decide

/-! ## Writing -/

/-- The decimal digits of a number, the most significant first and zero as one digit. -/
def digits (n : Nat) : List Char :=
  if n < 10 then [digit n] else digits (n / 10) ++ [digit (n % 10)]
termination_by n

/-- A number as text. -/
def ofNat (n : Nat) : String :=
  String.ofList (digits n)

/-- A number as text, with a minus sign before a negative one. -/
def ofInt : Int → String
  | .ofNat n => ofNat n
  | .negSucc n => String.ofList ('-' :: digits (n + 1))

/-- The digits of a number with zeros before them up to a width. -/
def padded (width n : Nat) : List Char :=
  let written := digits n
  List.replicate (width - written.length) '0' ++ written

/-! ## Reading -/

/-- The number that a list of digits denotes, starting from what has been read already. -/
def valueFrom (read : Nat) (numeral : List Char) : Nat :=
  numeral.foldl (fun sum c => sum * 10 + digitValue c) read

/-- The number that a list of digits denotes. -/
def value (numeral : List Char) : Nat :=
  valueFrom 0 numeral

/-- One guarded step: the multiplication and the addition must each stay within the limit. -/
def push? (limit read : Nat) (c : Char) : Option Nat :=
  let shifted := read * 10
  if shifted ≤ limit then
    let sum := shifted + digitValue c
    if sum ≤ limit then some sum else none
  else none

/-- Reads digit by digit and stops as soon as a step would pass the limit. -/
def boundedFrom? (limit read : Nat) : List Char → Option Nat
  | [] => some read
  | c :: rest => (push? limit read c).bind fun sum => boundedFrom? limit sum rest

/-- The number that a list of digits denotes, if it is within the limit. -/
def bounded? (limit : Nat) (numeral : List Char) : Option Nat :=
  boundedFrom? limit 0 numeral

/-- A numeral is a nonempty list of digits; leading zeros are allowed. -/
def isNumeral (text : List Char) : Bool :=
  !text.isEmpty && text.all isDigit

/-- Reads a whole text as a number within a limit. -/
def natural? (limit : Nat) (text : List Char) : Option Nat :=
  if isNumeral text then bounded? limit text else none

/-! ## What is written reads back -/

theorem valueFrom_append (read : Nat) (left right : List Char) :
    valueFrom read (left ++ right) = valueFrom (valueFrom read left) right := by
  simp [valueFrom, List.foldl_append]

theorem valueFrom_cons (read : Nat) (c : Char) (rest : List Char) :
    valueFrom read (c :: rest) = valueFrom (read * 10 + digitValue c) rest := by
  simp only [valueFrom, List.foldl_cons]

theorem le_valueFrom (read : Nat) (numeral : List Char) : read ≤ valueFrom read numeral := by
  induction numeral generalizing read with
  | nil => exact Nat.le_refl read
  | cons c rest inductionHypothesis =>
      rw [valueFrom_cons]
      have later := inductionHypothesis (read * 10 + digitValue c)
      omega

theorem value_digits (n : Nat) : value (digits n) = n := by
  fun_induction digits n with
  | case1 n small => simp [value, valueFrom, digitValue_digit small]
  | case2 n large inductionHypothesis =>
      have shorter : valueFrom 0 (digits (n / 10)) = n / 10 := inductionHypothesis
      rw [value, valueFrom_append, shorter, valueFrom_cons,
        digitValue_digit (Nat.mod_lt n (by omega))]
      simp only [valueFrom, List.foldl_nil]
      omega

theorem digits_ne_nil (n : Nat) : digits n ≠ [] := by
  rw [digits]
  split <;> simp

theorem isDigit_of_mem_digits {n : Nat} {c : Char} (member : c ∈ digits n) : isDigit c = true := by
  fun_induction digits n with
  | case1 n small =>
      rw [List.mem_singleton] at member
      rw [member]
      exact isDigit_digit small
  | case2 n large inductionHypothesis =>
      rw [List.mem_append, List.mem_singleton] at member
      rcases member with earlier | last
      · exact inductionHypothesis earlier
      · rw [last]
        exact isDigit_digit (Nat.mod_lt n (by omega))

theorem digits_injective {left right : Nat} (same : digits left = digits right) : left = right := by
  rw [← value_digits left, same, value_digits right]

/-! ## The guarded reading -/

theorem boundedFrom?_eq (limit read : Nat) (within : read ≤ limit) (numeral : List Char) :
    boundedFrom? limit read numeral =
      if valueFrom read numeral ≤ limit then some (valueFrom read numeral) else none := by
  induction numeral generalizing read with
  | nil => simp [boundedFrom?, valueFrom, within]
  | cons c rest inductionHypothesis =>
      rw [boundedFrom?, valueFrom_cons]
      by_cases fits : read * 10 + digitValue c ≤ limit
      · have shifted : read * 10 ≤ limit := by omega
        simp only [push?, if_pos shifted, if_pos fits, Option.bind_some]
        exact inductionHypothesis _ fits
      · have beyond : ¬ valueFrom (read * 10 + digitValue c) rest ≤ limit := by
          have grows := le_valueFrom (read * 10 + digitValue c) rest
          omega
        rw [if_neg beyond]
        by_cases shifted : read * 10 ≤ limit
        · simp [push?, shifted, fits]
        · simp [push?, shifted]

theorem bounded?_eq_some_iff {limit n : Nat} {numeral : List Char} :
    bounded? limit numeral = some n ↔ value numeral = n ∧ n ≤ limit := by
  rw [bounded?, boundedFrom?_eq limit 0 (Nat.zero_le limit)]
  by_cases fits : valueFrom 0 numeral ≤ limit
  · rw [if_pos fits]
    constructor
    · intro same
      injection same with same
      rw [value, same]
      exact ⟨rfl, by omega⟩
    · rintro ⟨same, -⟩
      exact congrArg some same
  · rw [if_neg fits]
    constructor
    · intro impossible
      contradiction
    · rintro ⟨same, within⟩
      rw [value] at same
      omega

end PipelineRegistry.Text.Decimal
