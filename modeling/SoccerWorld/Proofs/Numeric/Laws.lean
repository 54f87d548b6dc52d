import SoccerWorld.Proofs.Numeric.Doubles
import SoccerWorld.Proofs.Numeric.ExactReal

/-!
# Laws that doubles and real numbers share

`Scalar.IsSigned` says how far a change of sign can be undone and distributed over a sum.
`Scalar.HasDistances` says that the distance of finite scalars is either at most a finite bound or
more.  Both hold of doubles and of real numbers.

A sum of doubles that is zero may have either sign.  `Scalar.IsAlike` takes the two zeros for one.
-/

namespace SoccerWorld

/-- Two scalars are the same, or the same as the comparisons see it. -/
def Scalar.IsAlike {R : Type} [Scalar R] (x y : R) : Prop :=
  x = y ∨ Scalar.same x y = true

/-- Laws of the change of sign. -/
class Scalar.IsSigned (R : Type) [Scalar R] : Prop where
  neg_neg : ∀ x : R, - -x = x
  neg_add : ∀ x y : R, IsAlike (-(x + y)) (-x + -y)
  neg_zero : IsAlike (-(0.0 : R)) 0.0

/-- Finite scalars differ by at most a finite bound exactly if they do not differ by more. -/
class Scalar.HasDistances (R : Type) [Scalar R] : Prop where
  isFinite_zero : isFinite (0.0 : R) = true
  isFinite_millionth : isFinite (1.0e-6 : R) = true
  le_abs_sub_iff : ∀ x y bound : R, isFinite x = true → isFinite y = true →
    isFinite bound = true → (le (abs (x - y)) bound = true ↔ lt bound (abs (x - y)) = false)

/-! ## Doubles -/

instance : Scalar.IsSigned Float where
  neg_neg := Binary64.neg_neg
  neg_add := Binary64.neg_add
  neg_zero := Or.inr (by decide)

instance : Scalar.HasDistances Float where
  isFinite_zero := by decide
  isFinite_millionth := by decide
  le_abs_sub_iff _ _ _ hx hy hBound := Binary64.le_abs_sub_iff hx hy hBound

/-! ## Real numbers -/

instance : Scalar.IsSigned ℝ where
  neg_neg x := neg_neg x
  neg_add x y := Or.inl (neg_add x y)
  neg_zero := by
    have hZero : -(0.0 : ℝ) = 0.0 := by norm_num
    exact Or.inl hZero

instance : Scalar.HasDistances ℝ where
  isFinite_zero := rfl
  isFinite_millionth := rfl
  le_abs_sub_iff x y bound _ _ _ := by
    rw [ExactReal.le_eq_true_iff, ← Bool.not_eq_true, ExactReal.lt_eq_true_iff, not_lt]

end SoccerWorld
