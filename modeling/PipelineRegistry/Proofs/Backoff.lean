import PipelineRegistry.Proofs.WordArithmetic
import PipelineRegistry.Settings

/-!
# Backoff

How long a failed attempt is followed by waiting, in exact numbers. A duration also has a form in
two words, whole seconds and the nanoseconds beyond them, which is multiplied word by word with a
carry and compared seconds first. `backoff_is_exact` says that the wait has its exact length, that
the words come to the same length, that no wait passes the maximum, and that waits do not become
shorter from one attempt to the next.
-/

namespace PipelineRegistry

/-! ## Durations in words -/

/-- A duration in two words. The second one is less than a second. -/
structure Timespan where
  seconds : BitVec 64
  subsecond : BitVec 32
  carried : subsecond.toNat < nanosecondsPerSecond

namespace Timespan

/-- The length of a timespan. -/
def nanoseconds (span : Timespan) : Nat :=
  span.seconds.toNat * nanosecondsPerSecond + span.subsecond.toNat

/-- The longest timespan: the largest words that there can be. -/
def longest : Timespan :=
  ⟨BitVec.allOnes 64, 999_999_999#32, by decide⟩

/-- The nanoseconds of a second, as a word. -/
def perSecond : BitVec 64 :=
  BitVec.ofNat 64 nanosecondsPerSecond

/-- The nanoseconds of a multiple, before whole seconds are carried. The product wraps around. -/
def product (span : Timespan) (factor : BitVec 32) : BitVec 64 :=
  span.subsecond.setWidth 64 * factor.setWidth 64

/-- The whole seconds in the multiple of the nanoseconds. -/
def carry (span : Timespan) (factor : BitVec 32) : BitVec 64 :=
  span.product factor / perSecond

/-- What the whole seconds leave of the multiple of the nanoseconds. -/
def remainder (span : Timespan) (factor : BitVec 32) : BitVec 32 :=
  (span.product factor % perSecond).setWidth 32

theorem toNat_carry (span : Timespan) (factor : BitVec 32) :
    (span.carry factor).toNat = (span.product factor).toNat / nanosecondsPerSecond :=
  BitVec.toNat_udiv

theorem toNat_remainder (span : Timespan) (factor : BitVec 32) :
    (span.remainder factor).toNat = (span.product factor).toNat % nanosecondsPerSecond := by
  have divisor : perSecond.toNat = nanosecondsPerSecond := rfl
  rw [remainder, BitVec.toNat_setWidth, BitVec.toNat_umod, divisor]
  unfold nanosecondsPerSecond
  omega

theorem remainder_lt (span : Timespan) (factor : BitVec 32) :
    (span.remainder factor).toNat < nanosecondsPerSecond := by
  rw [toNat_remainder]
  exact Nat.mod_lt _ (by decide)

/-- A multiple of a timespan, unless its seconds overflow. -/
def times? (span : Timespan) (factor : BitVec 32) : Option Timespan :=
  (Word.times? span.seconds (factor.setWidth 64)).bind fun scaled =>
    (Word.plus? scaled (span.carry factor)).map fun seconds =>
      ⟨seconds, span.remainder factor, span.remainder_lt factor⟩

/-- A multiple of a timespan, or the longest one. -/
def times (span : Timespan) (factor : BitVec 32) : Timespan :=
  (span.times? factor).getD longest

/-- The shorter of two timespans: seconds are compared first. -/
def shorter (left right : Timespan) : Timespan :=
  if right.seconds < left.seconds ∨
      right.seconds = left.seconds ∧ right.subsecond < left.subsecond then right
  else left

/-- The product of the nanoseconds does not wrap around. -/
theorem toNat_product (span : Timespan) (factor : BitVec 32) :
    (span.product factor).toNat = span.subsecond.toNat * factor.toNat := by
  have left : span.subsecond.toNat < 2 ^ 32 := span.subsecond.isLt
  have right : factor.toNat < 2 ^ 32 := factor.isLt
  have fits : span.subsecond.toNat * factor.toNat < 2 ^ 64 := by
    have bound := Nat.mul_le_mul (Nat.le_of_lt_succ left) (Nat.le_of_lt_succ right)
    omega
  rw [product, BitVec.toNat_mul, BitVec.toNat_setWidth, BitVec.toNat_setWidth,
    Nat.mod_eq_of_lt (a := span.subsecond.toNat) (by omega),
    Nat.mod_eq_of_lt (a := factor.toNat) (by omega), Nat.mod_eq_of_lt fits]

theorem nanoseconds_le (span : Timespan) : span.nanoseconds ≤ longestNanoseconds := by
  have seconds : span.seconds.toNat < 2 ^ 64 := span.seconds.isLt
  have carried := span.carried
  simp only [nanoseconds, longestNanoseconds, nanosecondsPerSecond] at *
  omega

theorem nanoseconds_longest : longest.nanoseconds = longestNanoseconds := by
  decide

/-- A multiple, with the seconds that its nanoseconds carry. -/
theorem nanoseconds_mul (span : Timespan) (factor : BitVec 32) :
    span.nanoseconds * factor.toNat =
      (span.seconds.toNat * factor.toNat + (span.carry factor).toNat) * nanosecondsPerSecond +
        (span.remainder factor).toNat := by
  rw [toNat_carry, toNat_remainder, toNat_product]
  calc
    span.nanoseconds * factor.toNat =
        span.seconds.toNat * factor.toNat * nanosecondsPerSecond +
          span.subsecond.toNat * factor.toNat := by
      unfold nanoseconds
      ring
    _ = _ := by
      rw [Nat.add_mul, Nat.add_assoc, Nat.mul_comm (_ / _), Nat.div_add_mod]

/-- The seconds overflow exactly where the whole multiple is longer than the longest timespan. -/
theorem nanoseconds_times (span : Timespan) (factor : BitVec 32) :
    (span.times factor).nanoseconds =
      min longestNanoseconds (span.nanoseconds * factor.toNat) := by
  have multiple := nanoseconds_mul span factor
  have widened : (factor.setWidth 64).toNat = factor.toNat :=
    BitVec.toNat_setWidth_of_le (by decide)
  -- The seconds can overflow in their product or with the carry.
  have longer (overflows : 2 ^ 64 ≤ span.seconds.toNat * factor.toNat + (span.carry factor).toNat) :
      longestNanoseconds ≤ span.nanoseconds * factor.toNat := by
    rw [multiple]
    unfold longestNanoseconds nanosecondsPerSecond
    omega
  unfold times times?
  cases multiplied : Word.times? span.seconds (factor.setWidth 64) with
  | none =>
      rw [Word.times?_eq, Word.ofNat?_eq_none_iff, widened] at multiplied
      rw [Option.bind_none, Option.getD_none, nanoseconds_longest]
      exact (Nat.min_eq_left (longer (by omega))).symm
  | some scaled =>
      rw [Word.times?_eq, Word.ofNat?_eq_some_iff, widened] at multiplied
      rw [Option.bind_some]
      cases added : Word.plus? scaled (span.carry factor) with
      | none =>
          rw [Word.plus?_eq, Word.ofNat?_eq_none_iff, multiplied] at added
          rw [Option.map_none, Option.getD_none, nanoseconds_longest]
          exact (Nat.min_eq_left (longer added)).symm
      | some seconds =>
          rw [Word.plus?_eq, Word.ofNat?_eq_some_iff, multiplied] at added
          rw [← added] at multiple
          have bound :=
            nanoseconds_le ⟨seconds, span.remainder factor, span.remainder_lt factor⟩
          rw [Option.map_some, Option.getD_some, multiple]
          exact (Nat.min_eq_right bound).symm

theorem nanoseconds_shorter (left right : Timespan) :
    (left.shorter right).nanoseconds = min left.nanoseconds right.nanoseconds := by
  have leftCarried := left.carried
  have rightCarried := right.carried
  unfold shorter
  simp only [BitVec.lt_def, ← BitVec.toNat_inj]
  split <;> simp only [nanoseconds, nanosecondsPerSecond] at * <;> omega

end Timespan

namespace Duration

/-- A duration as a timespan. -/
def inWords (d : Duration) : Timespan :=
  ⟨BitVec.ofNat 64 d.seconds, BitVec.ofNat 32 d.subsecond, by
    have small : d.subsecond < nanosecondsPerSecond := Nat.mod_lt _ (by decide)
    exact Nat.lt_of_le_of_lt (Nat.mod_le _ _) small⟩

theorem nanoseconds_inWords (d : Duration) : d.inWords.nanoseconds = d.nanoseconds := by
  have bounded := d.bounded
  simp only [Timespan.nanoseconds, inWords, BitVec.toNat_ofNat, seconds, subsecond]
  unfold longestNanoseconds at bounded
  unfold nanosecondsPerSecond at *
  omega

theorem nanoseconds_times (d : Duration) (factor : Nat) :
    (d.times factor).nanoseconds = min longestNanoseconds (d.nanoseconds * factor) :=
  Nat.min_comm _ _

theorem nanoseconds_shorter (left right : Duration) :
    (left.shorter right).nanoseconds = min left.nanoseconds right.nanoseconds := by
  unfold shorter
  split <;> omega

/-- Milliseconds of 64 bits are far from the longest duration. -/
theorem nanoseconds_ofMilliseconds {milliseconds : Nat} (small : milliseconds < 2 ^ 64) :
    (ofMilliseconds milliseconds).nanoseconds = milliseconds * nanosecondsPerMillisecond := by
  apply Nat.min_eq_left
  unfold longestNanoseconds nanosecondsPerMillisecond nanosecondsPerSecond
  omega

end Duration

/-! ## The growth of waits -/

theorem saturatingPower_eq (base exponent : Nat) :
    saturatingPower base exponent = min (2 ^ 32 - 1) (base ^ exponent) := by
  have limit : wordLimit = 2 ^ 32 - 1 := by decide
  unfold saturatingPower
  rw [limit, Nat.pow_eq]
  by_cases small : base ≤ 1
  · rw [if_pos small]
    have cases : base = 0 ∨ base = 1 := by omega
    rcases cases with rfl | rfl
    · by_cases none : exponent = 0
      · rw [if_pos none, none]
        decide
      · rw [if_neg none, Nat.zero_pow (Nat.pos_of_ne_zero none)]
        decide
    · rw [Nat.one_pow, ite_self]
      decide
  rw [if_neg small]
  by_cases short : exponent < 32
  · rw [if_pos short, Nat.min_comm]
  · rw [if_neg short]
    have large : 2 ^ 32 ≤ base ^ exponent :=
      calc
        2 ^ 32 ≤ base ^ 32 := Nat.pow_le_pow_left (by omega) 32
        _ ≤ base ^ exponent := Nat.pow_le_pow_right (by omega) (by omega)
    omega

namespace RetryPolicy

/-- The wait behind an attempt, computed in words. -/
def intervalInWords (policy : RetryPolicy) (attempt : BitVec 32) : Timespan :=
  let grown := policy.initial.inWords.times
    (Word.power policy.coefficient.toBitVec (Word.difference attempt 1#32).toNat)
  match policy.maximum with
  | some maximum => grown.shorter maximum.inWords
  | none => grown

/-- The nanoseconds of the wait in unbounded numbers, but for the largest factor and the longest
duration. The maximum of the policy is not yet applied. -/
def grownNanoseconds (policy : RetryPolicy) (attempt : Nat) : Nat :=
  min longestNanoseconds
    (policy.initial.nanoseconds *
      min (2 ^ 32 - 1) (policy.coefficient.toNat ^ (max attempt 1 - 1)))

/-- The nanoseconds of the wait under the maximum of the policy, if it has one. -/
def exactNanoseconds (policy : RetryPolicy) (attempt : Nat) : Nat :=
  match policy.maximum with
  | some maximum => min maximum.nanoseconds (policy.grownNanoseconds attempt)
  | none => policy.grownNanoseconds attempt

theorem nanoseconds_interval (policy : RetryPolicy) (attempt : Nat) :
    (policy.interval attempt).nanoseconds = policy.exactNanoseconds attempt := by
  have retries : max attempt 1 - 1 = attempt - 1 := by omega
  have grown :
      (policy.initial.times
        (saturatingPower policy.coefficient.toNat (attempt - 1))).nanoseconds =
          policy.grownNanoseconds attempt := by
    rw [Duration.nanoseconds_times, saturatingPower_eq, grownNanoseconds, retries]
  unfold interval exactNanoseconds
  cases policy.maximum with
  | none => exact grown
  | some maximum =>
      simp only
      rw [Duration.nanoseconds_shorter, grown, Nat.min_comm]

theorem nanoseconds_intervalInWords (policy : RetryPolicy) (attempt : BitVec 32) :
    (policy.intervalInWords attempt).nanoseconds = policy.exactNanoseconds attempt.toNat := by
  have retries : (Word.difference attempt 1#32).toNat = max attempt.toNat 1 - 1 := by
    have one : (1#32).toNat = 1 := by decide
    rw [Word.toNat_difference, one]
    omega
  have grown :
      (policy.initial.inWords.times (Word.power policy.coefficient.toBitVec
        (Word.difference attempt 1#32).toNat)).nanoseconds =
          policy.grownNanoseconds attempt.toNat := by
    rw [Timespan.nanoseconds_times, Duration.nanoseconds_inWords, Word.toNat_power (by decide),
      retries, grownNanoseconds, UInt32.toNat_toBitVec]
  unfold intervalInWords exactNanoseconds
  cases policy.maximum with
  | none => exact grown
  | some maximum =>
      simp only
      rw [Timespan.nanoseconds_shorter, grown, Duration.nanoseconds_inWords, Nat.min_comm]

theorem exactNanoseconds_le
    {policy : RetryPolicy} {maximum : Duration} (capped : policy.maximum = some maximum)
    (attempt : Nat) :
    policy.exactNanoseconds attempt ≤ maximum.nanoseconds := by
  unfold exactNanoseconds
  rw [capped]
  exact Nat.min_le_left _ _

/-- A factor of one or more makes no power smaller, and no bound turns the order around. -/
theorem exactNanoseconds_mono
    {policy : RetryPolicy} (growing : 1 ≤ policy.coefficient) {earlier later : Nat}
    (ordered : earlier ≤ later) :
    policy.exactNanoseconds earlier ≤ policy.exactNanoseconds later := by
  have positive : 1 ≤ policy.coefficient.toNat := UInt32.le_iff_toNat_le.mp growing
  have powers : policy.coefficient.toNat ^ (max earlier 1 - 1) ≤
      policy.coefficient.toNat ^ (max later 1 - 1) :=
    Nat.pow_le_pow_right positive (by omega)
  have factors : min (2 ^ 32 - 1) (policy.coefficient.toNat ^ (max earlier 1 - 1)) ≤
      min (2 ^ 32 - 1) (policy.coefficient.toNat ^ (max later 1 - 1)) := by
    omega
  have products := Nat.mul_le_mul_left policy.initial.nanoseconds factors
  have grown : policy.grownNanoseconds earlier ≤ policy.grownNanoseconds later := by
    unfold grownNanoseconds
    omega
  unfold exactNanoseconds
  cases policy.maximum with
  | none => exact grown
  | some maximum =>
      simp only
      omega

end RetryPolicy

theorem RetrySettings.toNat_maxAttempts (settings : RetrySettings) :
    settings.policy.maxAttempts.toNat = max 1 settings.maxAttempts.toNat := by
  simp only [policy, RetryPolicy.withMaxAttempts]
  by_cases none : settings.maxAttempts = 0
  · rw [if_pos none, none]
    decide
  · have positive : settings.maxAttempts.toNat ≠ 0 := fun zero =>
      none (UInt32.toNat_inj.mp zero)
    rw [if_neg none]
    omega

/-- Waits have their exact length, in words as well; none passes the maximum, and none is shorter
than the one before it unless the coefficient is zero. The one product of words that is not checked
never wraps around. Whatever the settings are, they allow an attempt and bound every wait. -/
theorem backoff_is_exact :
    (∀ (policy : RetryPolicy) (attempt : UInt32),
      (policy.interval attempt.toNat).nanoseconds = policy.exactNanoseconds attempt.toNat ∧
      (policy.intervalInWords attempt.toBitVec).nanoseconds =
        policy.exactNanoseconds attempt.toNat ∧
      (∀ maximum, policy.maximum = some maximum →
        (policy.interval attempt.toNat).nanoseconds ≤ maximum.nanoseconds) ∧
      ∀ later, 1 ≤ policy.coefficient → attempt ≤ later →
        (policy.interval attempt.toNat).nanoseconds ≤
          (policy.interval later.toNat).nanoseconds) ∧
    (∀ (span : Timespan) (factor : BitVec 32),
      (span.product factor).toNat = span.subsecond.toNat * factor.toNat) ∧
    ∀ (attempts coefficient : UInt32) (initial maximum : UInt64),
      let settings : RetrySettings :=
        ⟨attempts, coefficient, .ofMilliseconds initial.toNat, .ofMilliseconds maximum.toNat⟩
      settings.policy.maxAttempts.toNat = max 1 attempts.toNat ∧
      ∀ attempt : UInt32,
        (settings.policy.interval attempt.toNat).nanoseconds ≤ maximum.toNat * 1_000_000 := by
  refine ⟨?waits, Timespan.toNat_product, ?settings⟩
  case waits =>
    intro policy attempt
    refine ⟨policy.nanoseconds_interval attempt.toNat,
      policy.nanoseconds_intervalInWords attempt.toBitVec, ?_, ?_⟩
    · intro maximum capped
      rw [RetryPolicy.nanoseconds_interval]
      exact RetryPolicy.exactNanoseconds_le capped attempt.toNat
    · intro later growing ordered
      rw [RetryPolicy.nanoseconds_interval, RetryPolicy.nanoseconds_interval]
      exact RetryPolicy.exactNanoseconds_mono growing (UInt32.le_iff_toNat_le.mp ordered)
  case settings =>
    intro attempts coefficient initial maximum settings
    refine ⟨settings.toNat_maxAttempts, ?_⟩
    intro attempt
    have capped : settings.policy.maximum = some (.ofMilliseconds maximum.toNat) := rfl
    have longest : (Duration.ofMilliseconds maximum.toNat).nanoseconds =
        maximum.toNat * 1_000_000 :=
      Duration.nanoseconds_ofMilliseconds maximum.toNat_lt
    rw [RetryPolicy.nanoseconds_interval, ← longest]
    exact RetryPolicy.exactNanoseconds_le capped attempt.toNat

/-! ## Waits that triple -/

namespace Tripling

/-- From one and a half seconds up to six thousand million. The power passes the largest word at
attempt 22, where the maximum holds already. -/
def policy : RetryPolicy where
  maxAttempts := 30
  coefficient := 3
  initial := .ofMilliseconds 1_500
  maximum := some (.ofSeconds 6_000_000_000)

/-- The same without a maximum, and so long that attempt 21 comes to the longest duration. -/
def unlimited : RetryPolicy :=
  { policy with initial := .ofSeconds (1 <<< 33), maximum := none }

end Tripling

theorem backoff_is_exact_tripling :
    (Tripling.policy.interval 20).nanoseconds = 1_743_392_200_500_000_000 ∧
      (Tripling.policy.interval 21).nanoseconds = 5_230_176_601_500_000_000 ∧
      (Tripling.policy.interval 22).nanoseconds = 6_000_000_000_000_000_000 ∧
      (Tripling.unlimited.interval 21).nanoseconds = longestNanoseconds ∧
      (Tripling.policy.maximum = some (.ofSeconds 6_000_000_000) ∧
        (Tripling.policy.interval 22).nanoseconds ≤
          (Duration.ofSeconds 6_000_000_000).nanoseconds) ∧
      1 ≤ Tripling.unlimited.coefficient ∧ (20 : UInt32) ≤ 21 ∧
      (Tripling.unlimited.interval 20).nanoseconds ≤
        (Tripling.unlimited.interval 21).nanoseconds := by
  obtain ⟨waits, -⟩ := backoff_is_exact
  have at20 := waits Tripling.policy 20
  have at21 := waits Tripling.policy 21
  have at22 := waits Tripling.policy 22
  refine ⟨at20.1.trans (by decide), at21.1.trans (by decide), at22.1.trans (by decide),
    (waits Tripling.unlimited 21).1.trans (by decide), ⟨rfl, at22.2.2.1 _ rfl⟩, by decide,
    by decide, ?_⟩
  exact (waits Tripling.unlimited 20).2.2.2 21 (by decide) (by decide)

end PipelineRegistry
