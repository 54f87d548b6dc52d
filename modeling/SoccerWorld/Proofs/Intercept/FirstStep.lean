import Mathlib.Data.Real.Basic
import SoccerWorld.Intercept.Search
import SoccerWorld.Proofs.Ball.RollingLine

/-!
# Where the search begins

The number of steps to leave out is taken from the cycles to the ball's line, the bonus and the
lockout by sums of signed numbers of 64 bits.  The cycles are cut off at the largest such number,
and only the lockout can lead beyond it.  Where it does not (`Reach.FirstStepFits`), the number is
the sum of the integers, cut off at zero (`Reach.firstStep_eq_max`).  Where it does, the sum wraps
below zero and no step is left out (`Reach.firstStep_eq_zero`).  So no more steps are ever left out
than the integers say (`Reach.firstStep_le_max`).
-/

namespace SoccerWorld

/-- No cycle count is below zero, so only its upper end can be cut off. -/
theorem toInt_ofIntClamp_of_nonneg {n : Int} (hNonneg : 0 ≤ n) :
    (Int64.ofIntClamp n).toInt = min n 9223372036854775807 := by
  have hMin : Int64.minValue.toInt = -9223372036854775808 := by decide
  have hMax : Int64.maxValue.toInt = 9223372036854775807 := by decide
  rcases le_or_gt n 9223372036854775807 with hFits | hLarge
  · rw [Int64.toInt_ofIntClamp (by omega) (by omega), min_eq_left hFits]
  · unfold Int64.ofIntClamp
    rw [dif_pos (by omega), dif_neg (by omega), hMax, min_eq_right hLarge.le]

namespace Reach

section Wrapping

variable {R : Type} [Scalar R] (reach : Reach R) (trajectory : Trajectory R)

theorem bonus_bounds : 0 ≤ reach.bonus ∧ reach.bonus < 4294967296 := by
  have hWord := reach.player.bonusStep.toNat_lt
  unfold bonus
  omega

theorem penalty_bounds : 0 ≤ reach.penalty ∧ reach.penalty < 4294967296 := by
  have hWord := reach.player.penaltyStep.toNat_lt
  unfold penalty
  omega

/-- The steps to leave out, before the sum wraps or is cut off at zero. -/
def firstBound : Int :=
  min (reach.cyclesToLine trajectory) 9223372036854775807 - reach.bonus + reach.penalty

/-- The sum for the steps to leave out is a signed number of 64 bits. -/
def FirstStepFits : Prop :=
  reach.firstBound trajectory ≤ 9223372036854775807

variable {reach trajectory} (hCycles : 0 ≤ reach.cyclesToLine trajectory)

include hCycles

theorem firstStep_eq_toNat_bmod :
    reach.firstStep trajectory = ((reach.firstBound trajectory).bmod (2 ^ 64)).toNat := by
  obtain ⟨hBonus, hBonusLt⟩ := reach.bonus_bounds
  obtain ⟨hPenalty, hPenaltyLt⟩ := reach.penalty_bounds
  unfold firstStep Int64.toNatClampNeg firstBound
  rw [Int64.toInt_add, Int64.toInt_sub, toInt_ofIntClamp_of_nonneg hCycles,
    Int64.toInt_ofInt_of_le (by omega) (by omega), Int64.toInt_ofInt_of_le (by omega) (by omega),
    Int.bmod_add_bmod]

/-- In range the steps to leave out are the sum, cut off at zero. -/
theorem firstStep_eq_max (hFits : reach.FirstStepFits trajectory) :
    (reach.firstStep trajectory : Int) = max 0 (reach.firstBound trajectory) := by
  have hBonus := reach.bonus_bounds
  have hPenalty := reach.penalty_bounds
  have hLow : -9223372036854775808 ≤ reach.firstBound trajectory := by
    unfold firstBound
    omega
  unfold FirstStepFits at hFits
  rw [firstStep_eq_toNat_bmod hCycles, Int.bmod_eq_of_le (by omega) (by omega)]
  omega

/-- Out of range the sum wraps to a number below zero. -/
theorem firstStep_eq_zero (hWraps : ¬ reach.FirstStepFits trajectory) :
    reach.firstStep trajectory = 0 := by
  have hBonus := reach.bonus_bounds
  have hPenalty := reach.penalty_bounds
  have hHigh : reach.firstBound trajectory < 9223372036854775808 + 4294967296 := by
    unfold firstBound
    omega
  unfold FirstStepFits at hWraps
  rw [firstStep_eq_toNat_bmod hCycles, Int.bmod_def]
  omega

/-- No more steps are left out than the integers say. -/
theorem firstStep_le_max :
    (reach.firstStep trajectory : Int) ≤
      max 0 (reach.cyclesToLine trajectory - reach.bonus + reach.penalty) := by
  by_cases hFits : reach.FirstStepFits trajectory
  · rw [firstStep_eq_max hCycles hFits]
    unfold firstBound
    omega
  · rw [firstStep_eq_zero hCycles hFits]
    exact le_max_left 0 _

end Wrapping

/-! ## In exact arithmetic -/

section Exact

variable (reach : Reach ℝ) (trajectory : Trajectory ℝ)

/-- The cycles to the ball's line, in lengths. -/
theorem cyclesToLine_eq_floor :
    reach.cyclesToLine trajectory =
      ⌊max (Vec2.distanceToLine trajectory.origin trajectory.direction reach.player.position -
        reach.control) 0 / max reach.motion.type.speedMax (10 ^ 6)⁻¹⌋ := by
  have hLeast : (1.0e-6 : ℝ) = (10 ^ 6)⁻¹ := by norm_num
  unfold cyclesToLine
  dsimp only
  rw [ExactReal.positivePart_eq, ExactReal.maximum_eq, hLeast]
  rfl

theorem cyclesToLine_nonneg : 0 ≤ reach.cyclesToLine trajectory := by
  rw [cyclesToLine_eq_floor]
  exact Int.floor_nonneg.mpr
    (div_nonneg (le_max_right _ _) (le_max_of_le_right (by norm_num)))

variable {reach trajectory}

/-- The sum is in range for a player whose way to the ball takes no more cycles at full speed than a
word can count. -/
theorem firstStepFits_of_norm_le
    (hWay : (trajectory.origin - reach.player.position).norm - reach.control ≤
      4294967296 * max reach.motion.type.speedMax (10 ^ 6)⁻¹) :
    reach.FirstStepFits trajectory := by
  have hLine : Vec2.distanceToLine trajectory.origin trajectory.direction reach.player.position ≤
      (trajectory.origin - reach.player.position).norm := by
    obtain ⟨t, hOnLine⟩ := Vec2.isOnLine_origin trajectory.origin trajectory.initialVelocity
    nth_rewrite 2 [hOnLine]
    exact Vec2.distanceToLine_le_norm _ _ _ t
  have hTop : 0 < max reach.motion.type.speedMax (10 ^ 6)⁻¹ := lt_max_of_lt_right (by norm_num)
  have hCycles : reach.cyclesToLine trajectory ≤ 4294967296 := by
    rw [cyclesToLine_eq_floor]
    refine Int.floor_le_iff.mpr (lt_of_le_of_lt ?_ (lt_add_one _))
    refine (div_le_iff₀ hTop).mpr (max_le ?_ (by positivity))
    push_cast
    linarith
  have hBonus := reach.bonus_bounds
  have hPenalty := reach.penalty_bounds
  unfold FirstStepFits firstBound
  omega

end Exact

end Reach
end SoccerWorld
