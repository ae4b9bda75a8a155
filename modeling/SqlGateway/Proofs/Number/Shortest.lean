import Mathlib.Algebra.Order.Field.Power
import Mathlib.Data.Rat.Cast.Order
import Mathlib.Tactic.FieldSimp
import Mathlib.Tactic.Linarith
import Mathlib.Tactic.NormNum
import Mathlib.Tactic.Positivity
import Mathlib.Tactic.Ring
import SqlGateway.Number.Binary64

namespace SqlGateway
namespace Binary64

/-!
# Shortest digits tell numbers apart

A number is written with the fewest digits that read back as the number.  Which rationals read back
as a number is an interval around it; the bounds belong to it if the significand is even.  The
intervals of two numbers have no point in common, so no two numbers have the same digits.

Digits are looked for with one digit more at a time.  With seventeen of them the grid of decimals
is so fine that the nearest one lies inside the interval, so some are always found.
-/

open Numeral (raised digits ofDigits)

/-- A significand and an exponent as a double precision number has them: of 53 binary digits, or
fewer at the least exponent. -/
structure IsDouble (significand : Nat) (exponent : Int) : Prop where
  bounded : significand < overflowing
  lowest : lowestExponent ≤ exponent
  full : exponent = lowestExponent ∨ leastFull ≤ significand

/-- There is one zero of each sign. -/
theorem IsDouble.zero {significand : Nat} {exponent : Int} (double : IsDouble significand exponent)
    (zero : significand = 0) : exponent = lowestExponent :=
  double.full.resolve_right fun full => absurd (zero ▸ full) (by decide)

/-! ## Powers -/

theorem raised_pos (base : Nat) (positive : 0 < base) (exponent : Int) :
    0 < raised base exponent :=
  Nat.pow_pos positive

/-- The powers with an exponent and its opposite make up the power among rationals. -/
theorem raised_eq (base : Nat) (positive : 0 < base) (exponent : Int) :
    (raised base exponent : ℚ) = (base : ℚ) ^ exponent * raised base (-exponent) := by
  have nonzero : (base : ℚ) ≠ 0 := Nat.cast_ne_zero.mpr positive.ne'
  unfold raised
  rcases exponent with power | power
  · simp
  · simp [zpow_negSucc, Int.neg_negSucc, nonzero]

/-! ## Rationals that round to a number -/

/-- A number of quarters of the last binary place, as a rational. -/
def quarters (count : Nat) (exponent : Int) : ℚ := count * 2 ^ (exponent - 2)

/-- A rational rounds to a number: it is within the bounds, and it is not a bound if the
significand is odd. -/
structure RoundsTo (significand : Nat) (exponent : Int) (value : ℚ) : Prop where
  low : quarters (quarterBounds significand exponent).1 exponent ≤ value
  high : value ≤ quarters (quarterBounds significand exponent).2 exponent
  strict : significand % 2 ≠ 0 ->
    quarters (quarterBounds significand exponent).1 exponent < value ∧
    value < quarters (quarterBounds significand exponent).2 exponent

theorem RoundsTo.of_strict {significand : Nat} {exponent : Int} {value : ℚ}
    (above : quarters (quarterBounds significand exponent).1 exponent < value)
    (below : value < quarters (quarterBounds significand exponent).2 exponent) :
    RoundsTo significand exponent value :=
  ⟨above.le, below.le, fun _ => ⟨above, below⟩⟩

section Comparison

variable (count coefficient : Nat) (quarter power : Int)

/-- The unit in which quarters and decimals are whole numbers. -/
def commonUnit : ℚ := raised 2 (-quarter) * raised 10 (-power)

theorem commonUnit_pos : 0 < commonUnit quarter power := by
  have twos := raised_pos 2 (by decide) (-quarter)
  have tens := raised_pos 10 (by decide) (-power)
  unfold commonUnit
  positivity

theorem quarters_in_units :
    ((count * (raised 2 quarter * raised 10 (-power)) : Nat) : ℚ) =
      count * 2 ^ quarter * commonUnit quarter power := by
  have twos : (raised 2 quarter : ℚ) = 2 ^ quarter * raised 2 (-quarter) :=
    raised_eq _ (by decide) _
  push_cast
  rw [twos, commonUnit]
  ring

theorem decimal_in_units :
    ((coefficient * raised 10 power * raised 2 (-quarter) : Nat) : ℚ) =
      coefficient * 10 ^ power * commonUnit quarter power := by
  have tens : (raised 10 power : ℚ) = 10 ^ power * raised 10 (-power) := raised_eq _ (by decide) _
  push_cast
  rw [tens, commonUnit]
  ring

/-- Quarters and decimals are compared by whole numbers. -/
theorem quarters_le_iff :
    count * (raised 2 quarter * raised 10 (-power)) ≤
        coefficient * raised 10 power * raised 2 (-quarter) ↔
      (count : ℚ) * 2 ^ quarter ≤ coefficient * 10 ^ power := by
  rw [← Nat.cast_le (α := ℚ), quarters_in_units, decimal_in_units]
  exact mul_le_mul_iff_left₀ (commonUnit_pos quarter power)

theorem le_quarters_iff :
    coefficient * raised 10 power * raised 2 (-quarter) ≤
        count * (raised 2 quarter * raised 10 (-power)) ↔
      (coefficient : ℚ) * 10 ^ power ≤ count * 2 ^ quarter := by
  rw [← Nat.cast_le (α := ℚ), quarters_in_units, decimal_in_units]
  exact mul_le_mul_iff_left₀ (commonUnit_pos quarter power)

end Comparison

theorem readsBack_iff (significand : Nat) (exponent : Int) (coefficient : Nat) (power : Int) :
    readsBack significand exponent coefficient power = true ↔
      RoundsTo significand exponent (coefficient * 10 ^ power) := by
  have least (count : Nat) := quarters_le_iff count coefficient (exponent - 2) power
  have greatest (count : Nat) := le_quarters_iff count coefficient (exponent - 2) power
  unfold readsBack
  by_cases even : significand % 2 = 0
  · simp only [even, if_true, Bool.and_eq_true, decide_eq_true_eq, least, greatest]
    exact ⟨fun within => ⟨within.1, within.2, fun odd => absurd even odd⟩,
      fun rounds => ⟨rounds.low, rounds.high⟩⟩
  · simp only [even, if_false, Bool.and_eq_true, decide_eq_true_eq, ← not_le, least, greatest]
    rw [not_le, not_le]
    exact ⟨fun within => ⟨within.1.le, within.2.le, fun _ => within⟩,
      fun rounds => rounds.strict even⟩

/-! ## No rational rounds to two numbers -/

theorem quarters_lt {count other : Nat} (less : count < other) (exponent : Int) :
    quarters count exponent < quarters other exponent := by
  unfold quarters
  have positive : (0 : ℚ) < 2 ^ (exponent - 2) := by positivity
  exact (mul_lt_mul_iff_left₀ positive).mpr (Nat.cast_lt.mpr less)

theorem quarters_le {count other : Nat} (atMost : count ≤ other) (exponent : Int) :
    quarters count exponent ≤ quarters other exponent := by
  rcases atMost.lt_or_eq with less | rfl
  · exact (quarters_lt less exponent).le
  · exact le_refl _

/-- Quarters are at least twice as great at a greater exponent. -/
theorem quarters_double (count : Nat) {exponent other : Int} (less : exponent < other) :
    quarters (2 * count) exponent ≤ quarters count other := by
  have shifted : (2 : ℚ) ^ (exponent - 2) * 2 ≤ 2 ^ (other - 2) := by
    rw [← zpow_add_one₀ two_ne_zero]
    exact zpow_le_zpow_right₀ one_le_two (by omega)
  have scaled := mul_le_mul_of_nonneg_left shifted (Nat.cast_nonneg (α := ℚ) count)
  unfold quarters
  push_cast
  linarith

/-- What rounds to a number that is not zero is not zero. -/
theorem low_pos {significand : Nat} (positive : 0 < significand) (exponent : Int) :
    0 < quarters (quarterBounds significand exponent).1 exponent := by
  have bound : 0 < (quarterBounds significand exponent).1 := by
    simp only [quarterBounds]
    split <;> omega
  have least := quarters_lt bound exponent
  rwa [quarters, Nat.cast_zero, zero_mul] at least

/-- Nothing that rounds to a number rounds to one that is farther from zero. -/
theorem RoundsTo.not_farther {significand other : Nat} {exponent otherExponent : Int} {value : ℚ}
    (double : IsDouble significand exponent) (otherDouble : IsDouble other otherExponent)
    (farther : exponent < otherExponent ∨ exponent = otherExponent ∧ significand < other)
    (rounds : RoundsTo significand exponent value)
    (otherRounds : RoundsTo other otherExponent value) : False := by
  have bounded := double.bounded
  have upper : value ≤ quarters (4 * significand + 2) exponent := rounds.high
  have strictUpper (odd : significand % 2 ≠ 0) :
      value < quarters (4 * significand + 2) exponent :=
    (rounds.strict odd).2
  have lower := otherRounds.low
  rcases farther with below | ⟨rfl, below⟩
  · -- The other number has all its binary digits, so its interval starts where that of the
    -- greatest significand ends.
    have full : leastFull ≤ other := by
      rcases otherDouble.full with least | full
      · exact absurd (least ▸ below) (not_lt.mpr double.lowest)
      · exact full
    have start : 8 * leastFull - 2 ≤ 2 * (quarterBounds other otherExponent).1 := by
      have size : leastFull = 0x10000000000000 := rfl
      have least := double.lowest
      simp only [quarterBounds]
      split <;> omega
    have reached := (quarters_le start exponent).trans ((quarters_double _ below).trans lower)
    by_cases odd : significand % 2 = 0
    · have short : 4 * significand + 2 < 8 * leastFull - 2 := by
        simp only [leastFull, overflowing] at bounded ⊢
        omega
      exact absurd (upper.trans_lt (quarters_lt short exponent)) (not_lt.mpr reached)
    · have short : 4 * significand + 2 ≤ 8 * leastFull - 2 := by
        simp only [leastFull, overflowing] at bounded ⊢
        omega
      exact absurd ((strictUpper odd).trans_le (quarters_le short exponent)) (not_lt.mpr reached)
  · -- Neighbours share a bound, which belongs to the even one only.
    have start : 4 * other - 2 ≤ (quarterBounds other exponent).1 := by
      simp only [quarterBounds]
      split <;> omega
    have reached := (quarters_le start exponent).trans lower
    by_cases odd : significand % 2 = 0
    · by_cases otherOdd : other % 2 = 0
      · have apart : 4 * significand + 2 < 4 * other - 2 := by omega
        exact absurd (upper.trans_lt (quarters_lt apart exponent)) (not_lt.mpr reached)
      · have meet : 4 * significand + 2 ≤ 4 * other - 2 := by omega
        have beyond := (quarters_le start exponent).trans_lt (otherRounds.strict otherOdd).1
        exact absurd (upper.trans (quarters_le meet exponent)) (not_le.mpr beyond)
    · have meet : 4 * significand + 2 ≤ 4 * other - 2 := by omega
      exact absurd ((strictUpper odd).trans_le (quarters_le meet exponent)) (not_lt.mpr reached)

/-- A rational rounds to one number at most. -/
theorem RoundsTo.unique {significand other : Nat} {exponent otherExponent : Int} {value : ℚ}
    (double : IsDouble significand exponent) (otherDouble : IsDouble other otherExponent)
    (rounds : RoundsTo significand exponent value)
    (otherRounds : RoundsTo other otherExponent value) :
    significand = other ∧ exponent = otherExponent := by
  rcases lt_trichotomy exponent otherExponent with below | same | above
  · exact (not_farther double otherDouble (.inl below) rounds otherRounds).elim
  · rcases lt_trichotomy significand other with below | sameSignificand | above
    · exact (not_farther double otherDouble (.inr ⟨same, below⟩) rounds otherRounds).elim
    · exact ⟨sameSignificand, same⟩
    · exact (not_farther otherDouble double (.inr ⟨same.symm, above⟩) otherRounds rounds).elim
  · exact (not_farther otherDouble double (.inl above) otherRounds rounds).elim

/-! ## Digits are found -/

/-- Rounding a quotient is off by half at most. -/
theorem roundDiv_near (numerator : Nat) {denominator : Nat} (positive : 0 < denominator) :
    2 * numerator ≤ 2 * (roundDiv numerator denominator * denominator) + denominator ∧
    2 * (roundDiv numerator denominator * denominator) ≤ 2 * numerator + denominator := by
  have split := Nat.div_add_mod numerator denominator
  have small := Nat.mod_lt numerator positive
  rw [Nat.mul_comm] at split
  have next (quotient : Nat) :
      (quotient + 1) * denominator = quotient * denominator + denominator := by ring
  unfold roundDiv
  simp only
  split
  · omega
  · split
    · rw [next]
      omega
    · rcases Nat.mod_two_eq_zero_or_one (numerator / denominator) with even | odd
      · rw [even, Nat.add_zero]
        omega
      · rw [odd, next]
        omega

theorem lt_pow_digits (value : Nat) : value < 10 ^ (digits value).length :=
  (Nat.length_toDigits_le_iff (by decide) Nat.length_toDigits_pos).mp (le_refl _)

theorem pow_digits_le {value : Nat} (positive : 0 < value) :
    10 ^ ((digits value).length - 1) ≤ value := by
  rcases Nat.eq_zero_or_pos ((digits value).length - 1) with single | several
  · rw [single]
    exact positive
  · refine Nat.le_of_not_lt fun less => ?_
    have fewer := (Nat.length_toDigits_le_iff (by decide) several).mpr less
    change (digits value).length ≤ (digits value).length - 1 at fewer
    omega

/-- The point is placed so that a ratio is not below the tenth of its power. -/
theorem pow_pointOf_le {numerator denominator : Nat} (positive : 0 < numerator) :
    (10 : ℚ) ^ (pointOf numerator denominator - 1) * denominator ≤ numerator := by
  unfold pointOf
  simp only
  split
  next reaches =>
    rw [add_sub_cancel_right]
    have tens := raised_eq 10 (by decide)
      (((digits numerator).length : Int) - (digits denominator).length)
    have factor := raised_pos 10 (by decide)
      (-(((digits numerator).length : Int) - (digits denominator).length))
    have cast := Nat.cast_le (α := ℚ) |>.mpr reaches
    push_cast at cast tens
    rw [tens] at cast
    refine le_of_mul_le_mul_right ?_ (Nat.cast_pos (α := ℚ) |>.mpr factor)
    linarith
  next =>
    have above : (10 : ℚ) ^ ((digits numerator).length - 1 : Nat) ≤ numerator := by
      exact_mod_cast pow_digits_le positive
    have below : (denominator : ℚ) ≤ 10 ^ (digits denominator).length := by
      exact_mod_cast (lt_pow_digits denominator).le
    have some : 0 < (digits numerator).length := Nat.length_toDigits_pos
    have split : (10 : ℚ) ^ ((digits numerator).length - 1 : Nat) =
        10 ^ ((((digits numerator).length : Int) - (digits denominator).length) - 1) *
          10 ^ (digits denominator).length := by
      rw [← zpow_natCast, ← zpow_natCast, ← zpow_add₀ (by norm_num)]
      congr 1
      omega
    have positive : (0 : ℚ) <
        10 ^ ((((digits numerator).length : Int) - (digits denominator).length) - 1) := by
      positivity
    calc
      _ ≤ _ := mul_le_mul_of_nonneg_left below positive.le
      _ ≤ _ := split ▸ above

/-- The decimal nearest to a number on a grid is half a step away at most. -/
theorem nearest_near (significand : Nat) (exponent power : Int) :
    let ratio := ratio significand exponent
    let nearest := roundDiv (ratio.1 * raised 10 (-power)) (ratio.2 * raised 10 power)
    2 * (significand * (2 : ℚ) ^ exponent) ≤ 2 * (nearest * 10 ^ power) + 10 ^ power ∧
    2 * ((nearest : ℚ) * 10 ^ power) ≤ 2 * (significand * 2 ^ exponent) + 10 ^ power := by
  have twos : (raised 2 exponent : ℚ) = 2 ^ exponent * raised 2 (-exponent) :=
    raised_eq _ (by decide) _
  have tens : (raised 10 power : ℚ) = 10 ^ power * raised 10 (-power) := raised_eq _ (by decide) _
  have twosPositive := raised_pos 2 (by decide) (-exponent)
  have tensPositive := raised_pos 10 (by decide) power
  have near := roundDiv_near ((ratio significand exponent).1 * raised 10 (-power))
    (Nat.mul_pos twosPositive tensPositive)
  simp only [ratio] at near ⊢
  generalize roundDiv (significand * raised 2 exponent * raised 10 (-power))
    (raised 2 (-exponent) * raised 10 power) = nearest at near ⊢
  have unit : (0 : ℚ) < commonUnit exponent power := commonUnit_pos exponent power
  have above := Nat.cast_le (α := ℚ) |>.mpr near.1
  have below := Nat.cast_le (α := ℚ) |>.mpr near.2
  push_cast at above below
  rw [twos, tens] at above below
  constructor
  · refine le_of_mul_le_mul_right ?_ unit
    unfold commonUnit
    linarith
  · refine le_of_mul_le_mul_right ?_ unit
    unfold commonUnit
    linarith

/-- The decimal nearest to a number rounds to the number if the grid is fine enough. -/
theorem nearest_roundsTo {significand : Nat} {exponent power : Int}
    (double : IsDouble significand exponent) (positive : 0 < significand)
    (fine : (10 : ℚ) ^ power * 10 ^ 16 ≤ significand * 2 ^ exponent) :
    let ratio := ratio significand exponent
    let nearest := roundDiv (ratio.1 * raised 10 (-power)) (ratio.2 * raised 10 power)
    RoundsTo significand exponent (nearest * 10 ^ power) := by
  have near := nearest_near significand exponent power
  have quarter : (2 : ℚ) ^ exponent = 4 * 2 ^ (exponent - 2) := by
    rw [zpow_sub₀ two_ne_zero]
    norm_num
    ring
  have place : (0 : ℚ) < 2 ^ (exponent - 2) := by positivity
  simp only at near ⊢
  generalize (roundDiv _ _ : ℚ) * 10 ^ power = decimal at near ⊢
  rw [quarter] at near fine
  have bounded : (significand : ℚ) * 2 ^ (exponent - 2) ≤ overflowing * 2 ^ (exponent - 2) :=
    mul_le_mul_of_nonneg_right (Nat.cast_le.mpr double.bounded.le) place.le
  rw [show ((overflowing : Nat) : ℚ) = 9007199254740992 from by norm_num [overflowing]] at bounded
  refine .of_strict ?_ ?_
  · simp only [quarterBounds, quarters]
    split
    next full =>
      -- Below a power of two the neighbours are nearer, but its significand is the least.
      have least : (significand : ℚ) = 4503599627370496 := by
        rw [full.1]
        norm_num [leastFull]
      rw [Nat.cast_sub (by omega)]
      push_cast
      rw [least] at near fine ⊢
      linarith
    next =>
      rw [Nat.cast_sub (by omega)]
      push_cast
      linarith
  · simp only [quarterBounds, quarters]
    push_cast
    linarith

theorem nearestOnGrid?_readsBack {significand coefficient : Nat} {exponent power : Int}
    (found : nearestOnGrid? significand exponent power = some coefficient) :
    readsBack significand exponent coefficient power = true := by
  have chosen (nearest other : Nat)
      (among : (if readsBack significand exponent nearest power then some nearest
        else if readsBack significand exponent other power then some other else none) =
          some coefficient) :
      readsBack significand exponent coefficient power = true := by
    split at among
    next reads => exact Option.some.inj among ▸ reads
    next =>
      split at among
      next reads => exact Option.some.inj among ▸ reads
      next => cases among
  exact chosen _ _ found

/-- If a grid that is looked at has a decimal that reads back, then such a decimal is found. -/
theorem searchDigits_readsBack {significand : Nat} {exponent point : Int} {fuel count : Nat}
    (step : Nat) (within : step < fuel)
    (found : (nearestOnGrid? significand exponent (point - (count + step : Nat))).isSome) :
    let decimal := searchDigits significand exponent point count fuel
    readsBack significand exponent decimal.1 decimal.2 = true := by
  induction fuel generalizing count step with
  | zero => omega
  | succ fuel inductionHypothesis =>
      unfold searchDigits
      cases here : nearestOnGrid? significand exponent (point - count) with
      | some coefficient => exact nearestOnGrid?_readsBack here
      | none =>
          cases step with
          | zero => simp [here] at found
          | succ step =>
              refine inductionHypothesis step (by omega) ?_
              rw [show count + 1 + step = count + (step + 1) by omega]
              exact found

/-- What the search for the shortest digits finds reads back. -/
theorem searchDigits_roundsTo {significand : Nat} {exponent : Int}
    (double : IsDouble significand exponent) (positive : 0 < significand) :
    let ratio := ratio significand exponent
    let decimal := searchDigits significand exponent (pointOf ratio.1 ratio.2) 1 17
    RoundsTo significand exponent (decimal.1 * 10 ^ decimal.2) := by
  intro ratio decimal
  refine (readsBack_iff _ _ _ _).mp (searchDigits_readsBack 16 (by decide) ?_)
  have twos : (raised 2 exponent : ℚ) = 2 ^ exponent * raised 2 (-exponent) :=
    raised_eq _ (by decide) _
  have numerator : 0 < ratio.1 := Nat.mul_pos positive (raised_pos 2 (by decide) exponent)
  have denominator : 0 < ratio.2 := raised_pos 2 (by decide) (-exponent)
  have fine : (10 : ℚ) ^ (pointOf ratio.1 ratio.2 - 17) * 10 ^ 16 ≤ significand * 2 ^ exponent := by
    have point : (10 : ℚ) ^ (pointOf ratio.1 ratio.2 - 1) * ratio.2 ≤ ratio.1 :=
      pow_pointOf_le numerator
    have step : (10 : ℚ) ^ (pointOf ratio.1 ratio.2 - 17) * 10 ^ 16 =
        10 ^ (pointOf ratio.1 ratio.2 - 1) := by
      rw [← zpow_natCast, ← zpow_add₀ (by norm_num)]
      congr 1
      norm_num
      ring
    have whole : (ratio.1 : ℚ) = significand * 2 ^ exponent * ratio.2 := by
      simp only [ratio, Binary64.ratio]
      push_cast
      rw [twos]
      ring
    rw [step]
    rw [whole] at point
    exact le_of_mul_le_mul_right point (Nat.cast_pos.mpr denominator)
  have reads := (readsBack_iff _ _ _ _).mpr (nearest_roundsTo double positive fine)
  unfold nearestOnGrid?
  simp only
  rw [if_pos]
  · rfl
  · exact reads

end Binary64
end SqlGateway
