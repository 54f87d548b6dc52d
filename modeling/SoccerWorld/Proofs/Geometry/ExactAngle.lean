import Mathlib.Tactic.Linarith
import SoccerWorld.Geometry.Angle
import SoccerWorld.Proofs.Numeric.ExactReal

/-!
# Directions in exact arithmetic

With real numbers the normal form is what it should be: the direction at `x` degrees differs from
`x` by whole turns (`exists_degrees_ofDegrees`), and directions that differ by whole turns are
equal (`eq_of_degrees_eq_add`).  Two half turns are therefore none (`reversed_reversed`).  The
inverse sine grows with its argument (`arcsine_le_arcsine`).
-/

namespace SoccerWorld

theorem isNormalDegrees_iff (x : ℝ) : isNormalDegrees x = true ↔ -180 < x ∧ x ≤ 180 := by
  rw [isNormalDegrees, Bool.and_eq_true, ExactReal.lt_eq_true_iff, ExactReal.le_eq_true_iff]
  norm_num

namespace Angle

theorem neg_halfTurn_lt (a : Angle ℝ) : -180 < a.degrees :=
  ((isNormalDegrees_iff a.degrees).mp a.isNormal).1

theorem le_halfTurn (a : Angle ℝ) : a.degrees ≤ 180 :=
  ((isNormalDegrees_iff a.degrees).mp a.isNormal).2

/-- Folding makes numbers between two full turns normal, by at most one turn. -/
theorem foldTurn_spec {x : ℝ} (hx : |x| < 360) :
    (-180 < foldTurn x ∧ foldTurn x ≤ 180) ∧ ∃ k : ℤ, foldTurn x = x + k * 360 := by
  obtain ⟨hLow, hHigh⟩ := abs_lt.mp hx
  unfold foldTurn
  simp only [ExactReal.lt_eq_true_iff, ExactReal.le_eq_true_iff]
  norm_num
  by_cases hAbove : 180 < x
  · rw [if_pos hAbove]
    refine ⟨⟨by linarith, by linarith⟩, -1, ?_⟩
    push_cast
    ring
  · rw [if_neg hAbove]
    by_cases hBelow : x ≤ -180
    · rw [if_pos hBelow]
      refine ⟨⟨by linarith, by linarith⟩, 1, ?_⟩
      push_cast
      ring
    · rw [if_neg hBelow]
      refine ⟨⟨by linarith, by linarith⟩, 0, ?_⟩
      push_cast
      ring

/-- The direction at `x` degrees differs from `x` by whole turns. -/
theorem exists_degrees_ofDegrees (x : ℝ) : ∃ k : ℤ, (ofDegrees x).degrees = x + k * 360 := by
  have hTurn : (360.0 : ℝ) = 360 := by norm_num
  by_cases hKept : isNormalDegrees x = true
  · refine ⟨0, ?_⟩
    rw [ofDegrees, dif_pos hKept]
    simp
  · have hSmall : |Scalar.remainder x (360.0 : ℝ)| < 360 := by
      rw [hTurn]
      exact ExactReal.abs_remainder_lt x (by norm_num)
    obtain ⟨hNormal, k, hFold⟩ := foldTurn_spec hSmall
    have hFolded := (isNormalDegrees_iff _).mpr hNormal
    refine ⟨k - truncated (x / 360), ?_⟩
    rw [ofDegrees, dif_neg hKept, ExactReal.isFinite_eq, if_pos rfl]
    dsimp only
    rw [dif_pos hFolded]
    show foldTurn _ = _
    rw [hFold, hTurn, ExactReal.remainder_eq]
    push_cast
    ring

/-- Directions that differ by whole turns are equal. -/
theorem eq_of_degrees_eq_add {a b : Angle ℝ} (k : ℤ) (hTurns : a.degrees = b.degrees + k * 360) :
    a = b := by
  -- Normal degrees lie in one half-open turn, so they differ by less than a turn.
  have haLow := a.neg_halfTurn_lt
  have haHigh := a.le_halfTurn
  have hbLow := b.neg_halfTurn_lt
  have hbHigh := b.le_halfTurn
  have hAbove : (-1 : ℝ) < k := by linarith
  have hBelow : (k : ℝ) < 1 := by linarith
  have hZero : k = 0 := by
    have hAbove' : (-1 : ℤ) < k := by exact_mod_cast hAbove
    have hBelow' : k < 1 := by exact_mod_cast hBelow
    omega
  apply Angle.ext
  rw [hTurns, hZero]
  simp

/-- The opposite direction is half a turn away, up to whole turns. -/
theorem exists_degrees_reversed (a : Angle ℝ) :
    ∃ k : ℤ, a.reversed.degrees = a.degrees + 180 + k * 360 := by
  have hHalf : (180.0 : ℝ) = 180 := by norm_num
  obtain ⟨k, hReversed⟩ := exists_degrees_ofDegrees (a.degrees + 180.0)
  exact ⟨k, by rw [reversed, hReversed, hHalf]⟩

/-- Two half turns are none. -/
theorem reversed_reversed (a : Angle ℝ) : a.reversed.reversed = a := by
  obtain ⟨k, hFirst⟩ := a.exists_degrees_reversed
  obtain ⟨l, hSecond⟩ := a.reversed.exists_degrees_reversed
  refine eq_of_degrees_eq_add (k + l + 1) ?_
  rw [hSecond, hFirst]
  push_cast
  ring

/-! ## The inverse sine -/

/-- The inverse sine of real numbers needs no bounds on its argument. -/
theorem arcsine_eq (x : ℝ) : arcsine x = Real.arcsin x * (180 / Real.pi) := by
  have hOne : (1.0 : ℝ) = 1 := by norm_num
  have hClamp : Real.arcsin (Scalar.clamp x (-1) 1) = Real.arcsin x := by
    simp only [Scalar.clamp, ExactReal.lt_eq_true_iff]
    split
    · next hLow => rw [Real.arcsin_of_le_neg_one hLow.le, Real.arcsin_neg_one]
    · split
      · next hHigh => rw [Real.arcsin_of_one_le hHigh.le, Real.arcsin_one]
      · rfl
  rw [arcsine, hOne]
  exact congrArg (· * (180 / Real.pi)) hClamp

theorem arcsine_le_arcsine {x y : ℝ} (hLe : x ≤ y) : arcsine x ≤ arcsine y := by
  rw [arcsine_eq, arcsine_eq]
  exact mul_le_mul_of_nonneg_right (Real.monotone_arcsin hLe) (by positivity)

end Angle

end SoccerWorld
