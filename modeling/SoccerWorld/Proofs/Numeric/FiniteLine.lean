import SoccerWorld.Proofs.Numeric.Laws
import SoccerWorld.Proofs.Numeric.Places

/-!
# The line of finite scalars

`Scalar.HasFiniteLine` says that finite scalars stand in one line: they compare as on a line, they
are sorted in that order, and a change of sign turns the line round.  It holds of doubles and of
real numbers.  Two scalars may share a place, as the two zeros among doubles do.

The rest of the file is what follows for comparisons and for the larger of two scalars.
-/

namespace SoccerWorld

/-- Finite scalars stand in one line, which a change of sign turns round. -/
class Scalar.HasFiniteLine (R : Type) [Scalar R] : Prop where
  le_total : ∀ x y : R, isFinite x = true → isFinite y = true → le x y = true ∨ le y x = true
  le_trans : ∀ x y z : R, isFinite x = true → isFinite y = true → isFinite z = true →
    le x y = true → le y z = true → le x z = true
  lt_iff_not_le : ∀ x y : R, isFinite x = true → isFinite y = true →
    (lt x y = true ↔ ¬ le y x = true)
  le_of_precedes : ∀ x y : R, isFinite x = true → isFinite y = true →
    precedes x y = true → le x y = true
  isFinite_neg : ∀ x : R, isFinite (-x) = isFinite x
  le_neg_neg : ∀ x y : R, isFinite x = true → isFinite y = true → le (-x) (-y) = le y x
  precedes_neg_neg : ∀ x y : R, isFinite x = true → isFinite y = true →
    precedes (-x) (-y) = precedes y x

/-! ## Doubles and real numbers -/

instance : Scalar.HasFiniteLine Float where
  le_total x y hx hy := by
    rw [Binary64.le_iff_place_le hx hy, Binary64.le_iff_place_le hy hx]
    exact Int.le_total _ _
  le_trans x y z hx hy hz := by
    rw [Binary64.le_iff_place_le hx hy, Binary64.le_iff_place_le hy hz,
      Binary64.le_iff_place_le hx hz]
    exact Int.le_trans
  lt_iff_not_le x y hx hy := by
    rw [Binary64.le_iff_place_le hy hx, Binary64.lt_iff_place_lt hx hy, not_le]
  le_of_precedes x y hx hy hPrecedes := by
    rw [Binary64.le_iff_place_le hx hy]
    exact Binary64.place_le_place (of_decide_eq_true hPrecedes)
  isFinite_neg := Binary64.isFinite_neg
  le_neg_neg x y hx hy := by
    rw [Bool.eq_iff_iff, Binary64.le_iff_place_le ((Binary64.isFinite_neg x).trans hx)
      ((Binary64.isFinite_neg y).trans hy), Binary64.le_iff_place_le hy hx, Binary64.place_neg hx,
      Binary64.place_neg hy]
    omega
  precedes_neg_neg x y hx hy := by
    show decide (Binary64.rank (-x) ≤ Binary64.rank (-y)) =
      decide (Binary64.rank y ≤ Binary64.rank x)
    rw [Binary64.rank_neg hx, Binary64.rank_neg hy, decide_eq_decide]
    omega

instance : Scalar.HasFiniteLine ℝ where
  le_total x y _ _ := by
    simpa using le_total x y
  le_trans x y z _ _ _ := by
    simpa using le_trans
  lt_iff_not_le x y _ _ := by simp
  le_of_precedes _ _ _ _ hPrecedes := hPrecedes
  isFinite_neg _ := rfl
  le_neg_neg x y _ _ := by
    rw [Bool.eq_iff_iff, ExactReal.le_eq_true_iff, ExactReal.le_eq_true_iff, neg_le_neg_iff]
  precedes_neg_neg x y _ _ := by
    show decide (-x ≤ -y) = decide (y ≤ x)
    rw [decide_eq_decide, neg_le_neg_iff]

/-! ## Comparisons of finite scalars -/

namespace Scalar

variable {R : Type} [Scalar R] [HasFiniteLine R] {x y z : R}

theorem le_self (hx : isFinite x = true) : le x x = true :=
  (HasFiniteLine.le_total x x hx hx).elim id id

theorem same_self (hx : isFinite x = true) : same x x = true := by
  simp [same, le_self hx]

section Comparisons

variable (hx : isFinite x = true) (hy : isFinite y = true)

include hx hy

theorem le_of_not_lt (hNot : ¬ lt x y = true) : le y x = true := by
  rw [HasFiniteLine.lt_iff_not_le x y hx hy, not_not] at hNot
  exact hNot

theorem le_of_lt (hLess : lt x y = true) : le x y = true :=
  (HasFiniteLine.le_total x y hx hy).resolve_right
    ((HasFiniteLine.lt_iff_not_le x y hx hy).mp hLess)

theorem lt_of_lt_of_le (hz : isFinite z = true) (hLess : lt x y = true) (hLe : le y z = true) :
    lt x z = true := by
  rw [HasFiniteLine.lt_iff_not_le x y hx hy] at hLess
  rw [HasFiniteLine.lt_iff_not_le x z hx hz]
  intro hBack
  exact hLess (HasFiniteLine.le_trans y z x hy hz hx hLe hBack)

theorem lt_of_le_of_lt (hz : isFinite z = true) (hLe : le x y = true) (hLess : lt y z = true) :
    lt x z = true := by
  rw [HasFiniteLine.lt_iff_not_le y z hy hz] at hLess
  rw [HasFiniteLine.lt_iff_not_le x z hx hz]
  intro hBack
  exact hLess (HasFiniteLine.le_trans z x y hz hx hy hBack hLe)

end Comparisons

/-! ## The larger and the smaller of two -/

section Choices

variable {x' y' : R}

theorem maximum_of_isFinite (hx : isFinite x = true) (y : R) :
    maximum x y = if lt x y = true then y else x := by
  simp [maximum, isUndefined, le_self hx]

theorem minimum_of_isFinite (hx : isFinite x = true) (y : R) :
    minimum x y = if lt y x = true then y else x := by
  simp [minimum, isUndefined, le_self hx]

variable (hx : isFinite x = true) (hy : isFinite y = true)

include hx hy

theorem isFinite_maximum : isFinite (maximum x y) = true := by
  rw [maximum_of_isFinite hx]
  split
  · exact hy
  · exact hx

theorem le_maximum_left : le x (maximum x y) = true := by
  rw [maximum_of_isFinite hx]
  split
  · next hLess => exact le_of_lt hx hy hLess
  · exact le_self hx

theorem le_maximum_right : le y (maximum x y) = true := by
  rw [maximum_of_isFinite hx]
  split
  · exact le_self hy
  · next hNot => exact le_of_not_lt hx hy hNot

theorem minimum_le_right : le (minimum x y) y = true := by
  rw [minimum_of_isFinite hx]
  split
  · exact le_self hy
  · next hNot => exact le_of_not_lt hy hx hNot

/-- The larger of two grows with both. -/
theorem maximum_le_maximum (hx' : isFinite x' = true) (hy' : isFinite y' = true)
    (hFirst : le x x' = true) (hSecond : le y y' = true) :
    le (maximum x y) (maximum x' y') = true := by
  have hMaximum := isFinite_maximum hx' hy'
  rw [maximum_of_isFinite hx y]
  split
  · exact HasFiniteLine.le_trans y y' _ hy hy' hMaximum hSecond (le_maximum_right hx' hy')
  · exact HasFiniteLine.le_trans x x' _ hx hx' hMaximum hFirst (le_maximum_left hx' hy')

theorem same_maximum_maximum (hx' : isFinite x' = true) (hy' : isFinite y' = true)
    (hFirst : same x x' = true) (hSecond : same y y' = true) :
    same (maximum x y) (maximum x' y') = true := by
  rw [same, Bool.and_eq_true] at hFirst hSecond ⊢
  exact ⟨maximum_le_maximum hx hy hx' hy' hFirst.1 hSecond.1,
    maximum_le_maximum hx' hy' hx hy hFirst.2 hSecond.2⟩

/-- A change of sign makes the larger of two the smaller one. -/
theorem minimum_eq_neg_maximum [IsSigned R] : minimum x y = -(maximum (-x) (-y)) := by
  have hx' : isFinite (-x) = true := (HasFiniteLine.isFinite_neg x).trans hx
  have hy' : isFinite (-y) = true := (HasFiniteLine.isFinite_neg y).trans hy
  have hLess : lt (-x) (-y) = lt y x := by
    rw [Bool.eq_iff_iff, HasFiniteLine.lt_iff_not_le _ _ hx' hy',
      HasFiniteLine.lt_iff_not_le _ _ hy hx, HasFiniteLine.le_neg_neg y x hy hx]
  rw [minimum_of_isFinite hx, maximum_of_isFinite hx', hLess]
  split
  · exact (IsSigned.neg_neg y).symm
  · exact (IsSigned.neg_neg x).symm

end Choices

/-! ## Scalars on one place -/

/-- Two changes of sign leave scalars on one place. -/
theorem same_neg_neg (hx : isFinite x = true) (hy : isFinite y = true) :
    same (-x) (-y) = same x y := by
  rw [same, same, HasFiniteLine.le_neg_neg x y hx hy, HasFiniteLine.le_neg_neg y x hy hx,
    Bool.and_comm]

/-- Zero stands on the place where its negation stands. -/
theorem same_neg_zero [IsSigned R] [HasDistances R] : same (-(0.0 : R)) 0.0 = true := by
  rcases IsSigned.neg_zero (R := R) with hEqual | hSame
  · rw [hEqual]
    exact same_self HasDistances.isFinite_zero
  · exact hSame

end Scalar
end SoccerWorld
