import SqlGateway.Proofs.Number.Shortest

namespace SqlGateway
namespace Binary64

/-!
# Whole numbers that are out of range

A whole number is rounded to 53 binary digits.  It is out of the range of double precision numbers
if the rounded number has 1025 binary digits.  That is so from the middle between the greatest
number of the range and the next power of two on, because the middle itself is rounded to the even
side, which is the power.

A numeral that is too long to be written has thousands of digits, so it is far out of range.
-/

open Numeral (raised digits)

/-- The least size at which a whole number is out of range. -/
def overflowBound : Nat := 2 ^ 1024 - 2 ^ 970

/-! ## Rounding -/

theorem div_le_roundDiv (numerator denominator : Nat) :
    numerator / denominator ≤ roundDiv numerator denominator := by
  unfold roundDiv
  simp only
  split
  · exact le_refl _
  · split
    · exact Nat.le_succ _
    · exact Nat.le_add_right _ _

theorem roundDiv_le (numerator denominator : Nat) :
    roundDiv numerator denominator ≤ numerator / denominator + 1 := by
  unfold roundDiv
  simp only
  split
  · exact Nat.le_succ _
  · split
    · exact le_refl _
    · omega

/-- A quotient is rounded beyond an odd number from the half after it on. -/
theorem lt_roundDiv_iff {count half numerator : Nat} (odd : count % 2 = 1) (positive : 0 < half) :
    count < roundDiv numerator (2 * half) ↔ count * (2 * half) + half ≤ numerator := by
  have unit : 0 < 2 * half := by omega
  have split := Nat.div_add_mod numerator (2 * half)
  have small := Nat.mod_lt numerator unit
  have least := div_le_roundDiv numerator (2 * half)
  have greatest := roundDiv_le numerator (2 * half)
  rcases Nat.lt_trichotomy (numerator / (2 * half)) count with below | same | above
  · have fewer := (Nat.div_lt_iff_lt_mul unit).mp below
    constructor
    · intro beyond
      omega
    · intro reached
      omega
  · rw [same, Nat.mul_comm] at split
    unfold roundDiv
    rw [same]
    simp only
    split
    · omega
    · split <;> omega
  · have more := (Nat.le_div_iff_mul_le unit).mp above
    rw [Nat.succ_mul] at more
    constructor
    · intro beyond
      omega
    · intro reached
      omega

/-- A whole number has all its binary digits before the point. -/
theorem exponentOf_one {value : Nat} (positive : 0 < value) :
    exponentOf value 1 = (value.log2 : Int) - 52 := by
  have least : 2 ^ value.log2 ≤ value := Nat.log2_self_le positive.ne'
  have nothing : Nat.log2 1 = 0 := by decide
  have shifts : value.log2 + (52 - value.log2) = value.log2 - 52 + 52 := by omega
  have full : leastFull = 2 ^ 52 := by decide
  have enough : 1 * raised 2 ((value.log2 : Int) - 52) * leastFull ≤
      value * raised 2 (-((value.log2 : Int) - 52)) := by
    have up : ((value.log2 : Int) - 52).toNat = value.log2 - 52 := by omega
    have down : (-((value.log2 : Int) - 52)).toNat = 52 - value.log2 := by omega
    calc 1 * raised 2 ((value.log2 : Int) - 52) * leastFull
        = 2 ^ (value.log2 - 52 + 52) := by
          rw [raised, up, full, one_mul, pow_add]
          rfl
      _ = 2 ^ value.log2 * 2 ^ (52 - value.log2) := by rw [← shifts, pow_add]
      _ ≤ value * 2 ^ (52 - value.log2) := Nat.mul_le_mul_right _ least
      _ = value * raised 2 (-((value.log2 : Int) - 52)) := by
          rw [raised, down]
          rfl
  unfold exponentOf
  simp only [nothing, Int.natCast_zero, sub_zero, not_lt.mpr enough, if_false]
  unfold lowestExponent
  omega

/-! ## The range -/

/-- A rounded ratio is out of range by its exponent, which the rounding may lift by one. -/
theorem ofRatio_infinite_iff {numerator denominator : Nat} {exponent : Int} (negative : Bool)
    (positive : 0 < numerator) (located : exponentOf numerator denominator = exponent) :
    (exists sign, ofRatio negative numerator denominator = .infinite sign) ↔
      971 < exponent ∨ (exponent = 971 ∧
        roundDiv (numerator * raised 2 (-exponent)) (denominator * raised 2 exponent) =
          overflowing) := by
  unfold ofRatio
  rw [if_neg positive.ne', located]
  simp only
  have highest : highestExponent = 971 := rfl
  by_cases lifted : roundDiv (numerator * raised 2 (-exponent)) (denominator * raised 2 exponent) =
      overflowing
  · rw [if_pos lifted]
    simp only [highest, lifted, and_true]
    split
    · exact iff_of_true (Exists.intro negative rfl) (by omega)
    · simp only [reduceCtorEq, exists_false, false_iff]
      omega
  · rw [if_neg lifted]
    simp only [highest, lifted, and_false, or_false]
    split
    · exact iff_of_true (Exists.intro negative rfl) (by omega)
    · simp only [reduceCtorEq, exists_false, false_iff]
      omega

theorem overflowBound_le : overflowBound ≤ 2 ^ 1024 := Nat.sub_le (2 ^ 1024) (2 ^ 970)

/-- The rounding lifts a number of 53 binary digits before its last place to 54 digits from the
half below the power on. -/
theorem roundDiv_overflowing_iff {value half : Nat} (positive : 0 < half)
    (below : value < 2 ^ 53 * (2 * half)) :
    roundDiv value (2 * half) = overflowing ↔ (2 ^ 53 - 1) * (2 * half) + half ≤ value := by
  have full : overflowing = 2 ^ 53 := by decide
  have beyond : 2 ^ 53 - 1 < roundDiv value (2 * half) ↔ _ :=
    lt_roundDiv_iff (by decide) positive
  have quotient : value / (2 * half) < 2 ^ 53 :=
    (Nat.div_lt_iff_lt_mul (by omega)).mpr below
  have most := roundDiv_le value (2 * half)
  rw [← beyond]
  omega

/-- Whole numbers are out of range from the bound on. -/
theorem ofInt_infinite_iff (value : Int) :
    (exists negative, ofInt value = .infinite negative) ↔ overflowBound ≤ value.natAbs := by
  have reaches := overflowBound_le
  have half : 2 ^ 1023 ≤ overflowBound := by decide +kernel
  have middle : overflowBound = (2 ^ 53 - 1) * (2 * 2 ^ 970) + 2 ^ 970 := by decide +kernel
  rcases Nat.eq_zero_or_pos value.natAbs with zero | positive
  · rw [ofInt, zero, ofRatio, if_pos rfl, zeroOf]
    simp only [reduceCtorEq, exists_false, false_iff, not_le]
    have least : 0 < 2 ^ 1023 := pow_pos Nat.two_pos 1023
    exact lt_of_lt_of_le least half
  · rw [ofInt, ofRatio_infinite_iff _ positive (exponentOf_one positive)]
    have least : 2 ^ value.natAbs.log2 ≤ value.natAbs := Nat.log2_self_le positive.ne'
    have greatest : value.natAbs < 2 ^ (value.natAbs.log2 + 1) := Nat.lt_log2_self
    rcases Nat.lt_trichotomy value.natAbs.log2 1023 with below | level | above
    · have smaller : 2 ^ (value.natAbs.log2 + 1) ≤ 2 ^ 1023 :=
        pow_le_pow_right₀ one_le_two (by omega)
      refine iff_of_false (by omega) ?_
      exact not_le.mpr (lt_of_lt_of_le greatest (smaller.trans half))
    · have up : raised 2 ((1023 : Nat) - 52 : Int) = 2 * 2 ^ 970 := by decide +kernel
      have down : raised 2 (-((1023 : Nat) - 52 : Int)) = 1 := rfl
      have whole : 2 ^ (1023 + 1) = 2 ^ 53 * (2 * 2 ^ 970) := by decide +kernel
      have unit : 0 < 2 ^ 970 := pow_pos Nat.two_pos 970
      rw [level, whole] at greatest
      rw [level, up, down, mul_one, one_mul, roundDiv_overflowing_iff unit greatest, middle]
      constructor
      · rintro (beyond | same)
        · omega
        · exact same.right
      · intro reached
        exact .inr (And.intro (by omega) reached)
    · have larger : 2 ^ 1024 ≤ 2 ^ value.natAbs.log2 :=
        pow_le_pow_right₀ one_le_two (by omega)
      exact iff_of_true (by omega) (reaches.trans (larger.trans least))

/-- A whole number that is too long to be written is out of range. -/
theorem overflowBound_le_of_long {value : Nat}
    (long : Numeral.digitLimit < (digits value).length) : overflowBound ≤ value := by
  have positive : 0 < value := by
    apply Nat.pos_of_ne_zero
    intro zero
    rw [zero] at long
    revert long
    decide
  have limit : Numeral.digitLimit = 4300 := rfl
  have smaller : 2 ≤ 10 := by decide
  calc overflowBound
      ≤ 2 ^ 1024 := overflowBound_le
    _ ≤ 10 ^ 1024 := pow_le_pow_left₀ (Nat.zero_le 2) smaller 1024
    _ ≤ 10 ^ ((digits value).length - 1) := pow_le_pow_right₀ (by decide) (by omega)
    _ ≤ value := pow_digits_le positive

end Binary64
end SqlGateway
