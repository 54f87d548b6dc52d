import Mathlib.Analysis.SpecialFunctions.Complex.Arg
import Mathlib.Analysis.SpecialFunctions.Trigonometric.Inverse
import SoccerWorld.Numeric.Scalar

/-!
# Exact arithmetic

The real numbers as scalars, with the mathematical meaning of every operation.  Every real number is
finite and defined, and the order by which scalars are sorted is the order of the numbers.

The lemmas say what each operation is in the language of real numbers, so that the instance need
not be unfolded.
-/

namespace SoccerWorld

/-- The integer next to a real number in the direction of zero. -/
noncomputable def truncated (x : ℝ) : ℤ :=
  if 0 ≤ x then ⌊x⌋ else ⌈x⌉

open Classical in
noncomputable instance : Scalar ℝ where
  lt x y := decide (x < y)
  le x y := decide (x ≤ y)
  precedes x y := decide (x ≤ y)
  isFinite _ := true
  abs x := |x|
  sqrt := Real.sqrt
  sin := Real.sin
  cos := Real.cos
  asin := Real.arcsin
  atan2 y x := Complex.arg ⟨x, y⟩
  hypotenuse x y := Real.sqrt (x * x + y * y)
  remainder x y := x - truncated (x / y) * y
  floor x := ⌊x⌋
  ceiling x := ⌈x⌉
  ofInt n := n
  degreesPerRadian := 180 / Real.pi
  radiansPerDegree := Real.pi / 180
  neg_halfTurn_lt_zero := by
    rw [decide_eq_true_iff]
    norm_num
  zero_le_halfTurn := by
    rw [decide_eq_true_iff]
    norm_num

namespace ExactReal

variable (x y : ℝ)

@[simp]
theorem lt_eq_true_iff : Scalar.lt x y = true ↔ x < y :=
  decide_eq_true_iff

@[simp]
theorem le_eq_true_iff : Scalar.le x y = true ↔ x ≤ y :=
  decide_eq_true_iff

@[simp]
theorem same_eq_true_iff : Scalar.same x y = true ↔ x = y := by
  rw [Scalar.same, Bool.and_eq_true, le_eq_true_iff, le_eq_true_iff, le_antisymm_iff]

@[simp]
theorem isFinite_eq : Scalar.isFinite x = true := rfl

theorem remainder_eq : Scalar.remainder x y = x - truncated (x / y) * y := rfl

theorem minimum_eq : Scalar.minimum x y = min x y := by
  have hDefined : Scalar.isUndefined x = false := by simp [Scalar.isUndefined]
  unfold Scalar.minimum
  rw [hDefined, if_neg Bool.false_ne_true, min_def_lt']
  simp only [lt_eq_true_iff]

theorem maximum_eq : Scalar.maximum x y = max x y := by
  have hDefined : Scalar.isUndefined x = false := by simp [Scalar.isUndefined]
  unfold Scalar.maximum
  rw [hDefined, if_neg Bool.false_ne_true, max_def_lt]
  simp only [lt_eq_true_iff]

theorem positivePart_eq : Scalar.positivePart x = max x 0 := by
  have hZero : (0.0 : ℝ) = 0 := by norm_num
  unfold Scalar.positivePart
  rw [maximum_eq]
  exact congrArg (max x) hZero

/-! ## Powers -/

/-- Repeated squaring multiplies by the power. -/
theorem powerFrom_eq (acc base : ℝ) (n : Nat) : Scalar.powerFrom acc base n = acc * base ^ n := by
  induction acc, base, n using Scalar.powerFrom.induct with
  | case1 acc base => rw [Scalar.powerFrom, if_pos rfl, pow_zero, mul_one]
  | case2 acc base n hPositive ih =>
      rw [dite_eq_ite] at ih
      rw [Scalar.powerFrom, if_neg hPositive, ih, ← sq, ← pow_mul]
      by_cases hOdd : n % 2 = 1
      · have hHalf : n = 2 * (n / 2) + 1 := by omega
        have hPower : base ^ n = base ^ (2 * (n / 2)) * base := by
          rw [← pow_succ]
          exact congrArg (base ^ ·) hHalf
        rw [if_pos hOdd, hPower]
        ring
      · have hHalf : n = 2 * (n / 2) := by omega
        have hPower : base ^ n = base ^ (2 * (n / 2)) := congrArg (base ^ ·) hHalf
        rw [if_neg hOdd, hPower]

theorem power_eq (base : ℝ) (n : Nat) : Scalar.power base n = base ^ n := by
  have hOne : (1.0 : ℝ) = 1 := by norm_num
  rw [Scalar.power, powerFrom_eq, hOne, one_mul]

/-! ## The truncated remainder -/

theorem abs_sub_truncated_lt_one : |x - truncated x| < 1 := by
  unfold truncated
  rw [abs_lt]
  split
  · have hLow := Int.floor_le x
    have hHigh := Int.lt_floor_add_one x
    constructor <;> linarith
  · have hLow := Int.le_ceil x
    have hHigh := Int.ceil_lt_add_one x
    constructor <;> linarith

/-- A remainder is smaller than the divisor, on either side of zero. -/
theorem abs_remainder_lt {y : ℝ} (hy : 0 < y) : |Scalar.remainder x y| < y := by
  have hShare : Scalar.remainder x y = (x / y - truncated (x / y)) * y := by
    rw [remainder_eq, sub_mul, div_mul_cancel₀ x hy.ne']
  calc |Scalar.remainder x y|
      = |x / y - truncated (x / y)| * y := by rw [hShare, abs_mul, abs_of_pos hy]
    _ < 1 * y := mul_lt_mul_of_pos_right (abs_sub_truncated_lt_one (x / y)) hy
    _ = y := one_mul y

end ExactReal

end SoccerWorld
