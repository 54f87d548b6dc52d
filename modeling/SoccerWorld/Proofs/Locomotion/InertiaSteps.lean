import Mathlib.Algebra.Field.GeomSum
import Mathlib.Logic.Function.Iterate
import SoccerWorld.Player.Basic
import SoccerWorld.Proofs.Locomotion.Inertia

/-!
# Passive motion adds up

Tracking moves an unseen player by one cycle at a time, while the predictor asks for the travel of
many cycles at once, in closed form.  The closed form is the sum of the powers of the decay
(`Locomotion.inertiaTravel_eq`), as long as the exponent is not cut off and the decay is not so near
to one that it counts as one (`Locomotion.ResolvesDecay`).  So the travel of some cycles and then of
some more is that of all of them, and both ways of moving a player agree (`Locomotion.addsUp`).
-/

namespace SoccerWorld

namespace Locomotion

theorem decayResolution_eq : (decayResolution : ℝ) = ((2 ^ 52 : Nat) : ℝ)⁻¹ := by
  norm_num [decayResolution]

/-- The decay is one, or not so near to one that it counts as one. -/
def ResolvesDecay (motion : Locomotion ℝ) : Prop :=
  ((2 ^ 52 : Nat) : ℝ)⁻¹ ≤ |1 - motion.type.decay| ∨ motion.type.decay = 1

/-- Passive motion leads to the same point cycle by cycle, in two stretches, and all at once, while
exponents are not cut off. -/
structure AddsUp (motion : Locomotion ℝ) : Prop where
  position_carry : ∀ (player : Player ℝ) (n : Nat), n ≤ maxExponent →
    ((fun player => player.carry motion)^[n] player).position =
      motion.inertiaPoint player.position player.velocity n
  velocity_carry : ∀ (player : Player ℝ) (n : Nat),
    ((fun player => player.carry motion)^[n] player).velocity =
      player.velocity.scale (motion.type.decay ^ n)
  inertiaPoint_add : ∀ (position velocity : Vec2 ℝ) (m n : Nat), m + n ≤ maxExponent →
    motion.inertiaPoint (motion.inertiaPoint position velocity m)
        (velocity.scale (motion.type.decay ^ m)) n =
      motion.inertiaPoint position velocity (m + n)

variable {motion : Locomotion ℝ}

/-- The closed form is that of a geometric series. -/
theorem inertiaTravel_eq (hDecay : motion.ResolvesDecay) (velocity : Vec2 ℝ) {n : Nat}
    (hn : n ≤ maxExponent) :
    motion.inertiaTravel velocity n =
      velocity.scale (∑ cycle ∈ Finset.range n, motion.type.decay ^ cycle) := by
  have hOne : (1.0 : ℝ) = 1 := by norm_num
  have hNear : Scalar.lt (Scalar.abs (1.0 - motion.type.decay)) decayResolution = true ↔
      motion.type.decay = 1 := by
    rw [ExactReal.lt_eq_true_iff, hOne, decayResolution_eq]
    show |1 - motion.type.decay| < _ ↔ _
    rcases hDecay with hFar | hSame
    · have hDifferent : motion.type.decay ≠ 1 := by
        intro hSame
        rw [hSame, sub_self, abs_zero] at hFar
        norm_num at hFar
      exact iff_of_false hFar.not_gt hDifferent
    · rw [hSame, sub_self, abs_zero]
      norm_num
  unfold inertiaTravel
  dsimp only
  split
  · next hStart =>
      rw [hStart, Finset.sum_range_zero, Vec2.scale_zero]
  · split
    · next hSame =>
        have hCount : (Scalar.ofInt (n : ℤ) : ℝ) = n := Int.cast_natCast n
        simp [hNear.mp hSame, hCount]
    · next hDifferent =>
        rw [ExactReal.power_eq, Nat.min_eq_left hn, hOne, geom_sum_eq (hNear.not.mp hDifferent),
          ← neg_sub, ← neg_sub motion.type.decay, neg_div_neg_eq]

theorem inertiaPoint_add (hDecay : motion.ResolvesDecay) (position velocity : Vec2 ℝ) {m n : Nat}
    (hCycles : m + n ≤ maxExponent) :
    motion.inertiaPoint (motion.inertiaPoint position velocity m)
        (velocity.scale (motion.type.decay ^ m)) n =
      motion.inertiaPoint position velocity (m + n) := by
  unfold inertiaPoint
  rw [inertiaTravel_eq hDecay _ (show m ≤ maxExponent by omega),
    inertiaTravel_eq hDecay _ (show n ≤ maxExponent by omega), inertiaTravel_eq hDecay _ hCycles,
    Vec2.scale_scale, Vec2.add_scale_add_scale, Finset.sum_range_add, Finset.mul_sum]
  simp only [pow_add]

/-- Each cycle leaves the same share of the velocity. -/
theorem velocity_iterate_carry (motion : Locomotion ℝ) (player : Player ℝ) (n : Nat) :
    ((fun player => player.carry motion)^[n] player).velocity =
      player.velocity.scale (motion.type.decay ^ n) := by
  induction n with
  | zero => rw [pow_zero, Vec2.scale_one]; rfl
  | succ n ih =>
      rw [Function.iterate_succ_apply', pow_succ, ← Vec2.scale_scale, ← ih]
      rfl

/-- Cycle by cycle a player gets where it would get at once. -/
theorem position_iterate_carry (hDecay : motion.ResolvesDecay) (player : Player ℝ) {n : Nat}
    (hn : n ≤ maxExponent) :
    ((fun player => player.carry motion)^[n] player).position =
      motion.inertiaPoint player.position player.velocity n := by
  induction n with
  | zero =>
      rw [inertiaPoint, inertiaTravel_eq hDecay _ hn, Finset.sum_range_zero, Vec2.scale_zero,
        Vec2.add_zero_eq]
      rfl
  | succ n ih =>
      rw [Function.iterate_succ_apply', ← inertiaPoint_add hDecay _ _ hn, ← ih (by omega),
        ← velocity_iterate_carry]
      rfl

theorem addsUp (hDecay : motion.ResolvesDecay) : motion.AddsUp where
  position_carry player _ hn := position_iterate_carry hDecay player hn
  velocity_carry := velocity_iterate_carry motion
  inertiaPoint_add position velocity _ _ hCycles := inertiaPoint_add hDecay position velocity hCycles

end Locomotion
end SoccerWorld
