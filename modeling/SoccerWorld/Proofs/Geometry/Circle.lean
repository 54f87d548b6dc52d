import Mathlib.Analysis.Normed.Group.AddCircle
import SoccerWorld.Proofs.Geometry.ExactAngle

/-!
# Directions form a circle

In exact arithmetic a direction is a point of a circle of 360 degrees (`Angle.toCircle`), and no two
directions are the same point.  Sums, differences and opposites of directions are those of the
circle, so they obey the laws of a commutative group (`Angle.obeysGroupLaws`); the size of a
direction is the norm of its point, so the distance of two directions is the shorter way around the
circle (`Angle.measuresShorterWay`).

The ends of the interval of normal degrees are one direction, of which 180 is the normal form.  Main
statement: `Angle.isCircle`.
-/

namespace SoccerWorld
namespace Angle

/-! ## What is stated -/

/-- The degrees of a direction are the only normal ones that differ from `x` by whole turns. -/
structure IsNormalFormOf (a : Angle ℝ) (x : ℝ) : Prop where
  neg_halfTurn_lt : -180 < a.degrees
  le_halfTurn : a.degrees ≤ 180
  exists_turns : ∃ k : ℤ, a.degrees = x + k * 360
  eq_of_turns : ∀ y, -180 < y → y ≤ 180 → (∃ k : ℤ, y = x + k * 360) → y = a.degrees

/-- Directions are added and subtracted as in a commutative group, and every direction has another
one opposite to it. -/
structure ObeysGroupLaws : Prop where
  add_assoc : ∀ a b c : Angle ℝ, a + b + c = a + (b + c)
  add_comm : ∀ a b : Angle ℝ, a + b = b + a
  zero_add : ∀ a : Angle ℝ, zero + a = a
  neg_add_cancel : ∀ a : Angle ℝ, -a + a = zero
  sub_eq_add_neg : ∀ a b : Angle ℝ, a - b = a + -b
  reversed_reversed : ∀ a : Angle ℝ, a.reversed.reversed = a
  reversed_ne : ∀ a : Angle ℝ, a.reversed ≠ a

/-- Distances of directions are measured along the shorter way around a circle. -/
structure MeasuresShorterWay : Prop where
  nonneg : ∀ a b : Angle ℝ, 0 ≤ a.distance b
  le_halfTurn : ∀ a b : Angle ℝ, a.distance b ≤ 180
  /-- No number of whole turns brings the degrees closer together. -/
  isLeast : ∀ a b : Angle ℝ,
    IsLeast (Set.range fun k : ℤ => |a.degrees - b.degrees + 360 * k|) (a.distance b)
  eq_zero_iff : ∀ a b : Angle ℝ, a.distance b = 0 ↔ a = b
  comm : ∀ a b : Angle ℝ, a.distance b = b.distance a
  triangle : ∀ a b c : Angle ℝ, a.distance c ≤ a.distance b + b.distance c
  reversed : ∀ a b : Angle ℝ, a.reversed.distance b.reversed = a.distance b
  shifted : ∀ a b c : Angle ℝ, (a + c).distance (b + c) = a.distance b
  add_opposite : ∀ a b : Angle ℝ, a.distance b + a.distance b.reversed = 180

/-! ## Points of the circle -/

/-- The point of the circle at a direction. -/
noncomputable def toCircle (a : Angle ℝ) : AddCircle (360 : ℝ) :=
  (a.degrees : AddCircle (360 : ℝ))

/-- Whole turns lead to the same point. -/
theorem coe_eq_coe_of_turns {x y : ℝ} (hTurns : ∃ k : ℤ, y = x + k * 360) :
    (y : AddCircle (360 : ℝ)) = x := by
  obtain ⟨k, rfl⟩ := hTurns
  rw [AddCircle.coe_add, add_eq_left, AddCircle.coe_eq_zero_iff]
  exact ⟨k, zsmul_eq_mul _ _⟩

@[simp]
theorem toCircle_ofDegrees (x : ℝ) : (ofDegrees x).toCircle = x :=
  coe_eq_coe_of_turns (exists_degrees_ofDegrees x)

theorem toCircle_injective : Function.Injective toCircle := by
  intro a b hSame
  rw [toCircle, toCircle, ← sub_eq_zero, ← AddCircle.coe_sub, AddCircle.coe_eq_zero_iff] at hSame
  obtain ⟨k, hTurns⟩ := hSame
  rw [zsmul_eq_mul] at hTurns
  exact eq_of_degrees_eq_add k (by linarith)

@[simp]
theorem toCircle_zero : (zero : Angle ℝ).toCircle = 0 := by
  have hZero : (0.0 : ℝ) = 0 := by norm_num
  show ((0.0 : ℝ) : AddCircle (360 : ℝ)) = 0
  rw [hZero, AddCircle.coe_zero]

variable (a b c : Angle ℝ)

@[simp]
theorem toCircle_add : (a + b).toCircle = a.toCircle + b.toCircle :=
  toCircle_ofDegrees (a.degrees + b.degrees)

@[simp]
theorem toCircle_sub : (a - b).toCircle = a.toCircle - b.toCircle :=
  toCircle_ofDegrees (a.degrees - b.degrees)

@[simp]
theorem toCircle_neg : (-a).toCircle = -a.toCircle :=
  toCircle_ofDegrees (-a.degrees)

@[simp]
theorem toCircle_reversed :
    a.reversed.toCircle = a.toCircle + ((180 : ℝ) : AddCircle (360 : ℝ)) := by
  have hHalf : (180.0 : ℝ) = 180 := by norm_num
  rw [reversed, toCircle_ofDegrees, hHalf, AddCircle.coe_add, toCircle]

/-- Two half turns add up to none. -/
theorem halfTurn_add_halfTurn :
    ((180 : ℝ) : AddCircle (360 : ℝ)) + ((180 : ℝ) : AddCircle (360 : ℝ)) = 0 := by
  rw [← AddCircle.coe_add, AddCircle.coe_eq_zero_iff]
  exact ⟨1, by norm_num⟩

/-! ## The normal form -/

theorem isNormalFormOf_ofDegrees (x : ℝ) : (ofDegrees x).IsNormalFormOf x where
  neg_halfTurn_lt := (ofDegrees x).neg_halfTurn_lt
  le_halfTurn := (ofDegrees x).le_halfTurn
  exists_turns := exists_degrees_ofDegrees x
  eq_of_turns y hLow hHigh hTurns := by
    have hNormal := (isNormalDegrees_iff y).mpr ⟨hLow, hHigh⟩
    have hSame : (⟨y, hNormal⟩ : Angle ℝ) = ofDegrees x := by
      apply toCircle_injective
      rw [toCircle_ofDegrees]
      exact coe_eq_coe_of_turns hTurns
    exact congrArg degrees hSame

/-- The opposite direction is half a turn away, on the side on which its degrees are normal. -/
theorem degrees_reversed :
    a.reversed.degrees = if 0 < a.degrees then a.degrees - 180 else a.degrees + 180 := by
  have hLow := a.neg_halfTurn_lt
  have hHigh := a.le_halfTurn
  have hHalf : (180.0 : ℝ) = 180 := by norm_num
  have hNormal := isNormalFormOf_ofDegrees (a.degrees + 180.0)
  rw [hHalf] at hNormal
  rw [reversed, hHalf]
  split
  · next hPositive =>
      refine (hNormal.eq_of_turns _ (by linarith) (by linarith) ⟨-1, ?_⟩).symm
      push_cast
      ring
  · next hNegative =>
      rw [not_lt] at hNegative
      refine (hNormal.eq_of_turns _ (by linarith) (by linarith) ⟨0, ?_⟩).symm
      push_cast
      ring

/-! ## Sums and opposites -/

theorem reversed_ne : a.reversed ≠ a := by
  intro hSame
  have hDegrees := a.degrees_reversed
  rw [hSame] at hDegrees
  split at hDegrees <;> linarith

theorem obeysGroupLaws : ObeysGroupLaws where
  add_assoc a b c := toCircle_injective (by simp [add_assoc])
  add_comm a b := toCircle_injective (by simp [add_comm])
  zero_add a := toCircle_injective (by simp)
  neg_add_cancel a := toCircle_injective (by simp)
  sub_eq_add_neg a b := toCircle_injective (by simp [sub_eq_add_neg])
  reversed_reversed := reversed_reversed
  reversed_ne := reversed_ne

/-! ## Distances -/

/-- The size of a direction is the distance of its point from the direction zero. -/
theorem size_eq_norm : a.size = ‖a.toCircle‖ := by
  have hShort : |a.degrees| ≤ |(360 : ℝ)| / 2 := by
    rw [abs_of_pos (by norm_num : (0 : ℝ) < 360), abs_le]
    exact ⟨by linarith [a.neg_halfTurn_lt], by linarith [a.le_halfTurn]⟩
  exact ((AddCircle.norm_coe_eq_abs_iff 360 (by norm_num)).mpr hShort).symm

theorem distance_eq_norm : a.distance b = ‖a.toCircle - b.toCircle‖ := by
  rw [distance, size_eq_norm, toCircle_sub]

theorem isLeast_distance :
    IsLeast (Set.range fun k : ℤ => |a.degrees - b.degrees + 360 * k|) (a.distance b) := by
  constructor
  · obtain ⟨k, hTurns⟩ := exists_degrees_ofDegrees (a.degrees - b.degrees)
    refine ⟨k, ?_⟩
    show |a.degrees - b.degrees + 360 * k| = |(a - b).degrees|
    rw [mul_comm, ← hTurns]
    rfl
  · rintro _ ⟨k, rfl⟩
    have hPoint : ((a.degrees - b.degrees + 360 * k : ℝ) : AddCircle (360 : ℝ)) =
        a.toCircle - b.toCircle := by
      rw [coe_eq_coe_of_turns ⟨k, by rw [mul_comm]⟩, AddCircle.coe_sub, toCircle, toCircle]
    rw [distance_eq_norm, ← hPoint]
    exact QuotientAddGroup.norm_mk_le_norm

/-- A direction and the opposite one lie on the two sides of a half turn. -/
theorem size_add_size_reversed : a.size + a.reversed.size = 180 := by
  show |a.degrees| + |a.reversed.degrees| = 180
  have hLow := a.neg_halfTurn_lt
  have hHigh := a.le_halfTurn
  rw [degrees_reversed]
  split
  · next hPositive =>
      rw [abs_of_pos hPositive, abs_of_nonpos (by linarith)]
      ring
  · next hNegative =>
      rw [not_lt] at hNegative
      rw [abs_of_nonpos hNegative, abs_of_pos (by linarith)]
      ring

theorem distance_add_distance_reversed : a.distance b + a.distance b.reversed = 180 := by
  have hOpposite : a - b.reversed = (a - b).reversed := by
    -- On the circle it is the same to add a half turn and to take it off.
    apply toCircle_injective
    simp only [toCircle_sub, toCircle_reversed]
    rw [← sub_sub, sub_eq_iff_eq_add, add_assoc, halfTurn_add_halfTurn, add_zero]
  rw [distance, distance, hOpposite, size_add_size_reversed]

theorem measuresShorterWay : MeasuresShorterWay where
  nonneg a b := abs_nonneg _
  le_halfTurn a b := by
    have hOpposite := a.distance_add_distance_reversed b
    have hNonneg : 0 ≤ a.distance b.reversed := abs_nonneg _
    linarith
  isLeast := isLeast_distance
  eq_zero_iff a b := by
    rw [distance_eq_norm, norm_eq_zero, sub_eq_zero, toCircle_injective.eq_iff]
  comm a b := by rw [distance_eq_norm, distance_eq_norm, norm_sub_rev]
  triangle a b c := by
    rw [distance_eq_norm, distance_eq_norm, distance_eq_norm]
    exact norm_sub_le_norm_sub_add_norm_sub _ _ _
  reversed a b := by simp [distance_eq_norm]
  shifted a b c := by simp [distance_eq_norm]
  add_opposite := distance_add_distance_reversed

/-- Directions are the points of a circle: every number of degrees has one normal form, which is its
own normal form; directions are added as points of a circle are; and they are as far apart as the
shorter way around it is long. -/
theorem isCircle :
    (∀ x : ℝ, (ofDegrees x).IsNormalFormOf x ∧ ofDegrees (ofDegrees x).degrees = ofDegrees x) ∧
      ObeysGroupLaws ∧ MeasuresShorterWay :=
  ⟨fun x => ⟨isNormalFormOf_ofDegrees x, ofDegrees_degrees (ofDegrees x)⟩, obeysGroupLaws,
    measuresShorterWay⟩

end Angle
end SoccerWorld
