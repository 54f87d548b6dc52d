import SoccerWorld.Locomotion.Basic
import SoccerWorld.Proofs.Geometry.ExactVector

/-!
# How far inertia carries a player

Under friction a player moves along its velocity and slows down, so that it travels no farther than
it would at its present speed (`Locomotion.norm_inertiaTravel_le`).
-/

namespace SoccerWorld
namespace Locomotion

variable (motion : Locomotion ℝ)

/-- Passive motion is along the velocity, and not for longer than its cycles at full length. -/
theorem exists_inertiaTravel_eq (hDecay : 0 ≤ motion.type.decay) (hFriction : motion.type.decay < 1)
    (velocity : Vec2 ℝ) (n : Nat) :
    ∃ factor : ℝ, 0 ≤ factor ∧ factor ≤ n ∧
      motion.inertiaTravel velocity n = velocity.scale factor := by
  have hOne : (1.0 : ℝ) = 1 := by norm_num
  unfold inertiaTravel
  dsimp only
  split
  · next hStart =>
      exact ⟨0, le_refl 0, Nat.cast_nonneg n, velocity.scale_zero.symm⟩
  · split
    · refine ⟨n, Nat.cast_nonneg n, le_refl _, ?_⟩
      show velocity.scale (((n : ℤ) : ℝ)) = _
      rw [Int.cast_natCast]
    · refine ⟨_, ?_, ?_, rfl⟩
      · rw [ExactReal.power_eq, hOne]
        exact div_nonneg (sub_nonneg.mpr (pow_le_one₀ hDecay hFriction.le))
          (sub_nonneg.mpr hFriction.le)
      · -- Bernoulli's inequality bounds the geometric sum.
        have hBernoulli := one_add_mul_sub_le_pow (by linarith : -1 ≤ motion.type.decay)
          (min n maxExponent)
        have hCount : ((min n maxExponent : ℕ) : ℝ) ≤ n :=
          Nat.cast_le.mpr (Nat.min_le_left n maxExponent)
        have hCycles := mul_le_mul_of_nonneg_right hCount (sub_nonneg.mpr hFriction.le)
        rw [ExactReal.power_eq, hOne, div_le_iff₀ (sub_pos.mpr hFriction)]
        linarith

/-- One cycle of passive motion is motion at the present speed. -/
theorem inertiaTravel_one (velocity : Vec2 ℝ) : motion.inertiaTravel velocity 1 = velocity := by
  have hOne : (1.0 : ℝ) = 1 := by norm_num
  have hScale : ∀ factor : ℝ, factor = 1 → velocity.scale factor = velocity := by
    rintro factor rfl
    exact velocity.scale_one
  unfold inertiaTravel
  dsimp only
  rw [if_neg Nat.one_ne_zero]
  split
  · exact hScale _ Int.cast_one
  · next hFar =>
      -- A decay that counts as different from one is different from one.
      have hFriction : 1 - motion.type.decay ≠ 0 := by
        intro hNone
        refine hFar ((ExactReal.lt_eq_true_iff _ _).mpr ?_)
        show |(1.0 : ℝ) - motion.type.decay| < 1.0 / 4503599627370496.0
        rw [hOne, hNone]
        norm_num
      refine hScale _ ?_
      rw [ExactReal.power_eq, Nat.min_eq_left (by decide), pow_one, hOne, div_self hFriction]

/-- Passive motion goes no farther than motion at the present speed. -/
theorem norm_inertiaTravel_le (hDecay : 0 ≤ motion.type.decay) (hFriction : motion.type.decay < 1)
    (velocity : Vec2 ℝ) (n : Nat) :
    (motion.inertiaTravel velocity n).norm ≤ n * velocity.norm := by
  obtain ⟨factor, hNonneg, hFactor, hTravel⟩ :=
    motion.exists_inertiaTravel_eq hDecay hFriction velocity n
  rw [hTravel, Vec2.norm_scale hNonneg]
  exact mul_le_mul_of_nonneg_right hFactor velocity.norm_nonneg

end Locomotion
end SoccerWorld
