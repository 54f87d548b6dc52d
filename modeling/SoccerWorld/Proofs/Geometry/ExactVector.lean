import SoccerWorld.Proofs.Geometry.ExactAngle

/-!
# Lengths and lines in exact arithmetic

A vector is its length along its direction (`Vec2.norm_mul_direction`), and no point of a line is
nearer than the line itself (`Vec2.distanceToLine_le_norm`).
-/

namespace SoccerWorld

attribute [ext] Vec2

namespace Vec2

/-! ## Multiples -/

section Multiples

variable (v w : Vec2 ℝ) (factor other : ℝ)

theorem zero_eq : (Vec2.zero : Vec2 ℝ) = ⟨0, 0⟩ := by
  have hZero : (0.0 : ℝ) = 0 := by norm_num
  rw [zero, hZero]

@[simp]
theorem add_zero_eq : v + Vec2.zero = v := by
  ext <;> simp [zero_eq]

@[simp]
theorem zero_scale : (Vec2.zero : Vec2 ℝ).scale factor = Vec2.zero := by
  ext <;> simp [zero_eq]

theorem scale_zero : v.scale 0 = Vec2.zero := by
  ext <;> simp [zero_eq]

@[simp]
theorem scale_one : v.scale 1 = v := by
  ext <;> simp

@[simp]
theorem scale_scale : (v.scale factor).scale other = v.scale (factor * other) := by
  ext <;> simp [mul_assoc]

theorem add_scale_add_scale :
    w + v.scale factor + v.scale other = w + v.scale (factor + other) := by
  ext <;> simp [mul_add, add_assoc]

end Multiples

/-! ## Lengths -/

theorem norm_eq (v : Vec2 ℝ) : v.norm = Real.sqrt (v.x * v.x + v.y * v.y) := rfl

theorem norm_nonneg (v : Vec2 ℝ) : 0 ≤ v.norm :=
  Real.sqrt_nonneg _

theorem normSquared_nonneg (v : Vec2 ℝ) : 0 ≤ v.normSquared :=
  add_nonneg (mul_self_nonneg v.x) (mul_self_nonneg v.y)

theorem norm_mul_norm (v : Vec2 ℝ) : v.norm * v.norm = v.normSquared :=
  Real.mul_self_sqrt v.normSquared_nonneg

/-- Lengths compare as their squares do. -/
theorem norm_le_norm_iff (v w : Vec2 ℝ) : v.norm ≤ w.norm ↔ v.normSquared ≤ w.normSquared :=
  Real.sqrt_le_sqrt_iff w.normSquared_nonneg

theorem norm_eq_norm_complex (v : Vec2 ℝ) : v.norm = ‖(⟨v.x, v.y⟩ : ℂ)‖ := by
  rw [Complex.norm_def, Complex.normSq_mk, norm_eq]

/-- A detour is no shorter than the straight way. -/
theorem norm_sum_le (v w : Vec2 ℝ) : (v + w).norm ≤ v.norm + w.norm := by
  simp only [norm_eq_norm_complex]
  exact norm_add_le (⟨v.x, v.y⟩ : ℂ) ⟨w.x, w.y⟩

/-- A multiple of a vector is as many times as long. -/
@[simp]
theorem norm_neg (v : Vec2 ℝ) : (-v).norm = v.norm := by
  show Real.sqrt (-v.x * -v.x + -v.y * -v.y) = _
  rw [neg_mul_neg, neg_mul_neg, norm_eq]

theorem norm_scale {factor : ℝ} (hFactor : 0 ≤ factor) (v : Vec2 ℝ) :
    (v.scale factor).norm = factor * v.norm := by
  have hSquares : (v.scale factor).x * (v.scale factor).x +
      (v.scale factor).y * (v.scale factor).y =
        factor ^ 2 * (v.x * v.x + v.y * v.y) := by
    rw [scale_x, scale_y]
    ring
  rw [norm_eq, hSquares, Real.sqrt_mul (sq_nonneg factor), Real.sqrt_sq hFactor, norm_eq]

/-- A vector of a bearing is as long as it is asked to be. -/
theorem norm_polar {length : ℝ} (hLength : 0 ≤ length) (bearing : Angle ℝ) :
    (polar length bearing).norm = length := by
  have hSquares : (polar length bearing).x * (polar length bearing).x +
      (polar length bearing).y * (polar length bearing).y =
        length ^ 2 * (Real.cos bearing.radians ^ 2 + Real.sin bearing.radians ^ 2) := by
    show length * Real.cos bearing.radians * (length * Real.cos bearing.radians) +
      length * Real.sin bearing.radians * (length * Real.sin bearing.radians) = _
    ring
  rw [norm_eq, hSquares, Real.cos_sq_add_sin_sq, mul_one, Real.sqrt_sq hLength]

/-- Vectors of one bearing are multiples of each other. -/
theorem polar_eq_scale (length : ℝ) (bearing : Angle ℝ) :
    polar length bearing = (polar 1 bearing).scale length := by
  ext <;> simp [polar, mul_comm]

/-- The direction of a vector is its polar angle, up to whole turns. -/
theorem exists_radians_direction {v : Vec2 ℝ} (hv : v.x ≠ 0 ∨ v.y ≠ 0) :
    ∃ k : ℤ, v.direction.radians = Complex.arg ⟨v.x, v.y⟩ + k * (2 * Real.pi) := by
  have hZero : (0.0 : ℝ) = 0 := by norm_num
  have hMoving : (Scalar.same v.x 0.0 && Scalar.same v.y 0.0) = false := by
    rw [Bool.eq_false_iff, ne_eq, Scalar.same, Scalar.same]
    simp only [Bool.and_eq_true, ExactReal.le_eq_true_iff, hZero]
    rintro ⟨⟨hxHigh, hxLow⟩, hyHigh, hyLow⟩
    rcases hv with hx | hy
    · exact hx (le_antisymm hxHigh hxLow)
    · exact hy (le_antisymm hyHigh hyLow)
  obtain ⟨k, hTurns⟩ := Angle.exists_degrees_ofDegrees
    (Scalar.atan2 v.y v.x * Scalar.degreesPerRadian)
  refine ⟨k, ?_⟩
  rw [direction, hMoving, if_neg Bool.false_ne_true, Angle.radians, hTurns]
  show (Complex.arg ⟨v.x, v.y⟩ * (180 / Real.pi) + k * 360) * (Real.pi / 180) = _
  field_simp
  ring

/-- A vector is its length along its direction. -/
theorem norm_mul_direction (v : Vec2 ℝ) :
    v.norm * Real.cos v.direction.radians = v.x ∧
      v.norm * Real.sin v.direction.radians = v.y := by
  by_cases hv : v.x ≠ 0 ∨ v.y ≠ 0
  · obtain ⟨k, hTurns⟩ := exists_radians_direction hv
    rw [hTurns, norm_eq_norm_complex, Real.cos_add_int_mul_two_pi, Real.sin_add_int_mul_two_pi]
    exact ⟨Complex.norm_mul_cos_arg _, Complex.norm_mul_sin_arg _⟩
  · obtain ⟨hx, hy⟩ := not_or.mp hv
    rw [not_not] at hx hy
    have hNorm : v.norm = 0 := by
      rw [norm_eq, hx, hy]
      norm_num
    rw [hNorm, hx, hy, zero_mul, zero_mul]
    exact ⟨rfl, rfl⟩

/-- A positive multiple of a vector points in its direction. -/
theorem direction_scale {factor : ℝ} (hFactor : 0 < factor) (v : Vec2 ℝ) :
    (v.scale factor).direction = v.direction := by
  have hZero : (0.0 : ℝ) = 0 := by norm_num
  have hPart : ∀ part : ℝ,
      Scalar.same (part * factor) (0.0 : ℝ) = Scalar.same part (0.0 : ℝ) := by
    intro part
    rw [Bool.eq_iff_iff, ExactReal.same_eq_true_iff, ExactReal.same_eq_true_iff, hZero,
      mul_eq_zero_iff_right hFactor.ne']
  have hPolar : Complex.arg ⟨v.x * factor, v.y * factor⟩ = Complex.arg ⟨v.x, v.y⟩ := by
    rw [← Complex.arg_mul_real hFactor ⟨v.x, v.y⟩]
    congr 1
    apply Complex.ext <;> simp
  simp only [direction, scale, hPart]
  split
  · rfl
  · exact congrArg (fun angle => Angle.ofDegrees (angle * Scalar.degreesPerRadian)) hPolar

/-- Turned into any direction, neither part of a vector is longer than the vector. -/
theorem abs_cross_le_norm (v : Vec2 ℝ) (θ : ℝ) :
    |v.x * Real.sin θ - v.y * Real.cos θ| ≤ v.norm := by
  rw [norm_eq]
  apply Real.abs_le_sqrt
  have hPythagoras := Real.sin_sq_add_cos_sq θ
  have hParts : (v.x * Real.sin θ - v.y * Real.cos θ) ^ 2 +
      (v.x * Real.cos θ + v.y * Real.sin θ) ^ 2 =
        (v.x * v.x + v.y * v.y) * (Real.sin θ ^ 2 + Real.cos θ ^ 2) := by ring
  rw [hPythagoras, mul_one] at hParts
  have hAlong := sq_nonneg (v.x * Real.cos θ + v.y * Real.sin θ)
  linarith

/-- A point is at least as far from each point of a line as from the line. -/
theorem distanceToLine_le_norm (origin velocity point : Vec2 ℝ) (t : ℝ) :
    distanceToLine origin velocity.direction point ≤
      (origin + velocity.scale t - point).norm := by
  obtain ⟨hx, hy⟩ := velocity.norm_mul_direction
  -- The line's own direction has no part across the line.
  have hParallel : velocity.x * Real.sin velocity.direction.radians -
      velocity.y * Real.cos velocity.direction.radians = 0 := by
    rw [← hx, ← hy]
    ring
  have hAcross : (point - origin).x * Real.sin velocity.direction.radians -
      (point - origin).y * Real.cos velocity.direction.radians =
        -((origin + velocity.scale t - point).x * Real.sin velocity.direction.radians -
          (origin + velocity.scale t - point).y * Real.cos velocity.direction.radians) := by
    have hShift := congrArg (fun part => part * t) hParallel
    simp only [add_x, add_y, sub_x, sub_y, scale] at hShift ⊢
    linarith
  show |(point - origin).x * Real.sin velocity.direction.radians -
    (point - origin).y * Real.cos velocity.direction.radians| ≤ _
  rw [hAcross, abs_neg]
  exact abs_cross_le_norm _ _

end Vec2
end SoccerWorld
