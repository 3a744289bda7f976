import Mathlib.Data.BitVec
import Mathlib.Tactic.Ring
import PipelineRegistry.RetryPolicy

/-!
# Word arithmetic

Sums, differences and products of words of a fixed width, with a sign or without one. Each of them
fails where no word has its exact result. A power is reached by repeated squaring, so that it could
fail at a square that is larger than the power that is asked for. It does not: `raise?_eq` says that
it fails exactly where the power itself does not fit, and `toNat_power` that the saturating power is
exact up to the largest word.
-/

namespace PipelineRegistry.Word

variable {width : Nat}

/-! ## Checked operations -/

/-- The result of an operation, unless the operation overflows. -/
def checked (overflows : Bool) (result : BitVec width) : Option (BitVec width) :=
  if overflows then none else some result

def plus? (left right : BitVec width) : Option (BitVec width) :=
  checked (left.uaddOverflow right) (left + right)

def minus? (left right : BitVec width) : Option (BitVec width) :=
  checked (left.usubOverflow right) (left - right)

def times? (left right : BitVec width) : Option (BitVec width) :=
  checked (left.umulOverflow right) (left * right)

def signedPlus? (left right : BitVec width) : Option (BitVec width) :=
  checked (left.saddOverflow right) (left + right)

def signedMinus? (left right : BitVec width) : Option (BitVec width) :=
  checked (left.ssubOverflow right) (left - right)

def signedTimes? (left right : BitVec width) : Option (BitVec width) :=
  checked (left.smulOverflow right) (left * right)

section Exactness

variable {left right word : BitVec width}

/-- A checked operation is exact if an overflow means that no word has the exact result. -/
theorem checked_eq_some_iff
    {α : Type} {value : BitVec width → α} (injective : Function.Injective value)
    {overflows : Bool} {result : BitVec width} {exact : α}
    (fits : ¬ overflows = true → value result = exact)
    (beyond : overflows = true → value word ≠ exact) :
    checked overflows result = some word ↔ value word = exact := by
  unfold checked
  by_cases overflow : overflows = true
  · rw [if_pos overflow]
    constructor
    · intro impossible
      contradiction
    · intro same
      exact absurd same (beyond overflow)
  · rw [if_neg overflow, Option.some.injEq, ← fits overflow]
    exact ⟨fun same => congrArg value same.symm, fun same => (injective same).symm⟩

theorem plus?_eq_some_iff :
    plus? left right = some word ↔ word.toNat = left.toNat + right.toNat := by
  apply checked_eq_some_iff BitVec.toNat_injective BitVec.toNat_add_of_not_uaddOverflow
  intro overflows
  have bound : word.toNat < 2 ^ width := word.isLt
  have beyond : 2 ^ width ≤ left.toNat + right.toNat := by
    simpa [BitVec.uaddOverflow] using overflows
  omega

theorem minus?_eq_some_iff :
    minus? left right = some word ↔ (word.toNat : Int) = left.toNat - right.toNat := by
  have injective : Function.Injective fun word : BitVec width => (word.toNat : Int) :=
    fun _ _ same => BitVec.toNat_injective (Int.ofNat.inj same)
  refine checked_eq_some_iff injective ?fits ?beyond
  case fits =>
    intro within
    have ordered : right.toNat ≤ left.toNat := by
      simpa [BitVec.usubOverflow] using within
    have exact := BitVec.toNat_sub_of_not_usubOverflow within
    simp only [exact]
    omega
  case beyond =>
    intro overflows
    have below : left.toNat < right.toNat := by
      simpa [BitVec.usubOverflow] using overflows
    omega

theorem times?_eq_some_iff :
    times? left right = some word ↔ word.toNat = left.toNat * right.toNat := by
  apply checked_eq_some_iff BitVec.toNat_injective BitVec.toNat_mul_of_not_umulOverflow
  intro overflows
  have bound : word.toNat < 2 ^ width := word.isLt
  have beyond : 2 ^ width ≤ left.toNat * right.toNat := by
    simpa [BitVec.umulOverflow] using overflows
  omega

theorem toInt_injective : Function.Injective (BitVec.toInt : BitVec width → Int) :=
  fun _ _ same => BitVec.toInt_inj.mp same

theorem signedPlus?_eq_some_iff :
    signedPlus? left right = some word ↔ word.toInt = left.toInt + right.toInt := by
  apply checked_eq_some_iff toInt_injective BitVec.toInt_add_of_not_saddOverflow
  intro overflows
  have low := BitVec.le_toInt word
  have high := BitVec.toInt_lt (x := word)
  have beyond : 2 ^ (width - 1) ≤ left.toInt + right.toInt ∨
      left.toInt + right.toInt < -2 ^ (width - 1) := by
    simpa [BitVec.saddOverflow] using overflows
  omega

theorem signedMinus?_eq_some_iff :
    signedMinus? left right = some word ↔ word.toInt = left.toInt - right.toInt := by
  apply checked_eq_some_iff toInt_injective BitVec.toInt_sub_of_not_ssubOverflow
  intro overflows
  have low := BitVec.le_toInt word
  have high := BitVec.toInt_lt (x := word)
  have beyond : 2 ^ (width - 1) ≤ left.toInt - right.toInt ∨
      left.toInt - right.toInt < -2 ^ (width - 1) := by
    simpa [BitVec.ssubOverflow] using overflows
  omega

theorem signedTimes?_eq_some_iff :
    signedTimes? left right = some word ↔ word.toInt = left.toInt * right.toInt := by
  apply checked_eq_some_iff toInt_injective BitVec.toInt_mul_of_not_smulOverflow
  intro overflows
  have low := BitVec.le_toInt word
  have high := BitVec.toInt_lt (x := word)
  have beyond : 2 ^ (width - 1) ≤ left.toInt * right.toInt ∨
      left.toInt * right.toInt < -2 ^ (width - 1) := by
    simpa [BitVec.smulOverflow] using overflows
  omega

end Exactness

/-- The difference of two words, or zero where it would be negative. -/
def difference (left right : BitVec width) : BitVec width :=
  (minus? left right).getD (BitVec.ofNat width 0)

theorem toNat_difference (left right : BitVec width) :
    (difference left right).toNat = left.toNat - right.toNat := by
  unfold difference minus? checked
  by_cases overflows : left.usubOverflow right = true
  · have below : left.toNat < right.toNat := by
      simpa [BitVec.usubOverflow] using overflows
    have zero : (BitVec.ofNat width 0).toNat = 0 := BitVec.toNat_zero
    rw [if_pos overflows, Option.getD_none, zero]
    omega
  · rw [if_neg overflows, Option.getD_some]
    exact BitVec.toNat_sub_of_not_usubOverflow overflows

/-! ## Numbers as words -/

/-- The word of a number, if the number fits. -/
def ofNat? (width n : Nat) : Option (BitVec width) :=
  if n < 2 ^ width then some (BitVec.ofNat width n) else none

theorem ofNat?_eq_some_iff {n : Nat} {word : BitVec width} :
    ofNat? width n = some word ↔ word.toNat = n := by
  have bound : word.toNat < 2 ^ width := word.isLt
  unfold ofNat?
  by_cases fits : n < 2 ^ width
  · rw [if_pos fits, Option.some.injEq, ← BitVec.toNat_inj, BitVec.toNat_ofNat,
      Nat.mod_eq_of_lt fits]
    exact eq_comm
  · rw [if_neg fits]
    constructor
    · intro impossible
      contradiction
    · intro same
      omega

theorem ofNat?_eq_none_iff {n : Nat} : ofNat? width n = none ↔ 2 ^ width ≤ n := by
  unfold ofNat?
  by_cases fits : n < 2 ^ width
  · rw [if_pos fits]
    constructor
    · intro impossible
      contradiction
    · intro beyond
      omega
  · rw [if_neg fits]
    exact ⟨fun _ => Nat.le_of_not_lt fits, fun _ => rfl⟩

theorem ofNat?_toNat (word : BitVec width) : ofNat? width word.toNat = some word :=
  ofNat?_eq_some_iff.mpr rfl

theorem plus?_eq (left right : BitVec width) :
    plus? left right = ofNat? width (left.toNat + right.toNat) :=
  Option.ext fun _ => plus?_eq_some_iff.trans ofNat?_eq_some_iff.symm

theorem times?_eq (left right : BitVec width) :
    times? left right = ofNat? width (left.toNat * right.toNat) :=
  Option.ext fun _ => times?_eq_some_iff.trans ofNat?_eq_some_iff.symm

/-! ## Powers -/

/-- A product with one more factor for an odd exponent. -/
def takeFactor? (product base : BitVec width) (exponent : Nat) : Option (BitVec width) :=
  if exponent % 2 = 1 then times? product base else some product

/-- A product times a power. The base is squared once for every further bit of the exponent. -/
def raise? (product base : BitVec width) (exponent : Nat) : Option (BitVec width) :=
  if exponent = 0 then some product
  else
    (takeFactor? product base exponent).bind fun next =>
      if exponent = 1 then some next
      else (times? base base).bind fun square => raise? next square (exponent / 2)
termination_by exponent
decreasing_by omega

/-- A power, or the largest word where the power overflows. -/
def power (base : BitVec width) (exponent : Nat) : BitVec width :=
  (raise? 1 base exponent).getD (BitVec.allOnes width)

theorem takeFactor?_eq (product base : BitVec width) (exponent : Nat) :
    takeFactor? product base exponent =
      ofNat? width (product.toNat * base.toNat ^ (exponent % 2)) := by
  unfold takeFactor?
  by_cases odd : exponent % 2 = 1
  · rw [if_pos odd, odd, Nat.pow_one, times?_eq]
  · have even : exponent % 2 = 0 := by omega
    rw [if_neg odd, even, Nat.pow_zero, Nat.mul_one, ofNat?_toNat]

theorem mul_pow_eq (product base exponent : Nat) :
    product * base ^ (exponent % 2) * (base * base) ^ (exponent / 2) =
      product * base ^ exponent := by
  have bits : exponent % 2 + 2 * (exponent / 2) = exponent := Nat.mod_add_div exponent 2
  calc
    product * base ^ (exponent % 2) * (base * base) ^ (exponent / 2) =
        product * base ^ (exponent % 2 + 2 * (exponent / 2)) := by
      rw [Nat.mul_assoc, ← Nat.pow_two, ← Nat.pow_mul, ← Nat.pow_add]
    _ = product * base ^ exponent := by rw [bits]

/-- The factor of one bit overflows only where the whole power does. -/
theorem le_of_le_factor
    {limit product base exponent : Nat} (below : product < limit)
    (beyond : limit ≤ product * base ^ (exponent % 2)) :
    limit ≤ product * base ^ exponent := by
  by_cases zero : base = 0
  · have small : product * base ^ (exponent % 2) ≤ product := by
      have unit : base ^ (exponent % 2) ≤ 1 := by
        have grown : base ^ (exponent % 2) ≤ 1 ^ (exponent % 2) :=
          Nat.pow_le_pow_left (by omega) _
        rwa [Nat.one_pow] at grown
      simpa using Nat.mul_le_mul_left product unit
    omega
  · have positive : 0 < base := Nat.pos_of_ne_zero zero
    have shorter : exponent % 2 ≤ exponent := Nat.mod_le exponent 2
    have smaller := Nat.mul_le_mul_left product (Nat.pow_le_pow_right positive shorter)
    exact Nat.le_trans beyond smaller

/-- A square is taken only for an exponent of two or more, so that it is a part of the power. -/
theorem le_of_le_square
    {limit product base exponent : Nat} (grows : product = 0 → base = 0)
    (positive : 0 < limit) (longer : 2 ≤ exponent) (beyond : limit ≤ base * base) :
    limit ≤ product * base ^ exponent := by
  have base_pos : 0 < base := by
    rcases Nat.eq_zero_or_pos base with zero | positive
    · rw [zero] at beyond
      omega
    · exact positive
  have product_pos : 0 < product := by
    rcases Nat.eq_zero_or_pos product with zero | positive
    · have := grows zero
      omega
    · exact positive
  calc
    limit ≤ base ^ 2 := by rwa [Nat.pow_two]
    _ ≤ base ^ exponent := Nat.pow_le_pow_right base_pos longer
    _ ≤ product * base ^ exponent := Nat.le_mul_of_pos_left _ product_pos

/-- The product may be zero only together with the base; else a square could overflow although the
power is zero. -/
theorem raise?_eq
    (product base : BitVec width) (exponent : Nat)
    (grows : product.toNat = 0 → base.toNat = 0) :
    raise? product base exponent = ofNat? width (product.toNat * base.toNat ^ exponent) := by
  induction exponent using Nat.strongRecOn generalizing product base with
  | ind exponent inductionHypothesis =>
      rw [raise?]
      by_cases finished : exponent = 0
      · rw [if_pos finished, finished, Nat.pow_zero, Nat.mul_one, ofNat?_toNat]
      rw [if_neg finished]
      cases factor : takeFactor? product base exponent with
      | none =>
          rw [takeFactor?_eq, ofNat?_eq_none_iff] at factor
          rw [Option.bind_none, eq_comm, ofNat?_eq_none_iff]
          exact le_of_le_factor product.isLt factor
      | some next =>
          rw [takeFactor?_eq, ofNat?_eq_some_iff] at factor
          rw [Option.bind_some]
          by_cases last : exponent = 1
          · rw [if_pos last, eq_comm, ofNat?_eq_some_iff, factor, last]
          rw [if_neg last]
          cases squared : times? base base with
          | none =>
              rw [times?_eq, ofNat?_eq_none_iff] at squared
              rw [Option.bind_none, eq_comm, ofNat?_eq_none_iff]
              exact le_of_le_square grows (Nat.two_pow_pos width) (by omega) squared
          | some square =>
              rw [times?_eq, ofNat?_eq_some_iff] at squared
              have nextGrows : next.toNat = 0 → square.toNat = 0 := by
                intro zero
                rw [factor, Nat.mul_eq_zero] at zero
                have baseZero : base.toNat = 0 := by
                  rcases zero with productZero | powerZero
                  · exact grows productZero
                  · exact (Nat.pow_eq_zero.mp powerZero).1
                rw [squared, baseZero]
              have shorter : exponent / 2 < exponent := by omega
              rw [Option.bind_some, inductionHypothesis _ shorter next square nextGrows, factor,
                squared, mul_pow_eq]

theorem toNat_power (wide : 0 < width) (base : BitVec width) (exponent : Nat) :
    (power base exponent).toNat = min (2 ^ width - 1) (base.toNat ^ exponent) := by
  have one : (1 : BitVec width).toNat = 1 := BitVec.toNat_one wide
  have raised := raise?_eq 1 base exponent (by omega)
  rw [one, Nat.one_mul] at raised
  unfold power
  cases found : raise? 1 base exponent with
  | none =>
      rw [raised, ofNat?_eq_none_iff] at found
      rw [Option.getD_none, BitVec.toNat_allOnes]
      omega
  | some word =>
      rw [raised, ofNat?_eq_some_iff] at found
      have bound : word.toNat < 2 ^ width := word.isLt
      rw [Option.getD_some, found]
      omega

end PipelineRegistry.Word
