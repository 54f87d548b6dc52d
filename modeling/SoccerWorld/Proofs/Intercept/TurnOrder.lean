import SoccerWorld.Intercept.Turn
import SoccerWorld.Proofs.Geometry.ExactAngle
import SoccerWorld.Proofs.Geometry.ExactVector

/-!
# Farther targets and smaller radii take more turns

A player turns more for a larger heading error and for a smaller tolerance
(`Turning.countFrom_le_countFrom`).  With the distance the tolerance shrinks and the error does not,
although it is folded near the target only (`Turning.headingError_le_headingError`).  So the turns
towards a direction grow with the distance and shrink with the control radius
(`Turning.count_le_count`).
-/

namespace SoccerWorld
namespace Turning

variable {motion motion' : Locomotion ℝ} {search : SearchTuning ℝ} {body : Angle ℝ}

theorem le_countFrom (motion : Locomotion ℝ) (moment tolerance : ℝ) (remaining made : Nat)
    (error speed : ℝ) : made ≤ countFrom motion moment tolerance remaining made error speed := by
  induction remaining generalizing made error speed with
  | zero => exact Nat.le_refl made
  | succ remaining ih =>
      rw [countFrom]
      split
      · exact Nat.le_of_succ_le (ih _ _ _)
      · exact Nat.le_refl made

/-- Motions that turn and slow down alike make more turns for a larger error and a smaller
tolerance. -/
theorem countFrom_le_countFrom (hDecay : motion.type.decay = motion'.type.decay)
    (hMoment : motion.type.inertiaMoment = motion'.type.inertiaMoment)
    (moment : ℝ) {tolerance tolerance' : ℝ} (hTolerance : tolerance' ≤ tolerance)
    (remaining made : Nat) {error error' : ℝ} (hError : error ≤ error') (speed : ℝ) :
    countFrom motion moment tolerance remaining made error speed ≤
      countFrom motion' moment tolerance' remaining made error' speed := by
  induction remaining generalizing made error error' speed with
  | zero => exact Nat.le_refl made
  | succ remaining ih =>
      rw [countFrom]
      split
      · next hFar =>
          -- Both players turn by the same angle, so the order of their errors stays.
          have hFar' : Scalar.lt tolerance' error' = true := by
            rw [ExactReal.lt_eq_true_iff] at hFar ⊢
            linarith
          rw [countFrom, if_pos hFar', ← hDecay]
          refine ih _ ?_ _
          simp only [Locomotion.effectiveTurn, hMoment]
          linarith
      · exact le_countFrom motion' moment tolerance' _ made error' speed

theorem tolerance_le_tolerance {control control' distance distance' : ℝ} (hNonneg : 0 ≤ control')
    (hControl : control' ≤ control) (hPositive : 0 < distance) (hDistance : distance ≤ distance') :
    tolerance search control' distance' ≤ tolerance search control distance := by
  have hSight : control' / distance' ≤ control / distance :=
    div_le_div₀ (hNonneg.trans hControl) hControl hPositive hDistance
  rw [tolerance, tolerance, ExactReal.maximum_eq, ExactReal.maximum_eq]
  exact max_le_max_right _ (Angle.arcsine_le_arcsine hSight)

/-- The heading error does not shrink with the distance: it is folded near the target only, and the
folded error is a sharp angle. -/
theorem headingError_le_headingError {target target' : Vec2 ℝ}
    (hDirection : target.direction = target'.direction) {distance distance' : ℝ}
    (hDistance : distance ≤ distance') :
    headingError search body target distance ≤ headingError search body target' distance' := by
  have hRight : (90.0 : ℝ) = 90 := by norm_num
  have hHalf : (180.0 : ℝ) = 180 := by norm_num
  simp only [headingError, hDirection, Bool.and_eq_true, ExactReal.lt_eq_true_iff, hRight, hHalf]
  generalize target'.direction.distance body = error
  split
  · next hFolds =>
      split
      · exact le_refl _
      · linarith [hFolds.2]
  · next hKeeps =>
      rw [if_neg (fun hFolds => hKeeps ⟨hDistance.trans_lt hFolds.1, hFolds.2⟩)]

/-- Towards a direction the turns grow with the distance and shrink with the control radius.  The
direction is of no account to a player that has the target under control. -/
theorem count_le_count (hDecay : motion.type.decay = motion'.type.decay)
    (hMoment : motion.type.inertiaMoment = motion'.type.inertiaMoment) (rules : Rules ℝ)
    (velocity : Vec2 ℝ) {control control' : ℝ} (hNonneg : 0 ≤ control')
    (hControl : control' ≤ control) {target target' : Vec2 ℝ}
    (hDistance : target.norm ≤ target'.norm)
    (hDirection : control < target.norm → target.direction = target'.direction) :
    count rules search motion body velocity control target target.norm ≤
      count rules search motion' body velocity control' target' target'.norm := by
  unfold count
  simp only [ExactReal.le_eq_true_iff]
  split
  · exact Nat.zero_le _
  · next hOutside =>
      rw [not_le] at hOutside
      have hOutside' : ¬ target'.norm ≤ control' := by linarith
      rw [if_neg hOutside']
      exact countFrom_le_countFrom hDecay hMoment rules.maxMoment
        (tolerance_le_tolerance hNonneg hControl (by linarith) hDistance) _ 0
        (headingError_le_headingError (hDirection hOutside) hDistance) velocity.norm

end Turning
end SoccerWorld
