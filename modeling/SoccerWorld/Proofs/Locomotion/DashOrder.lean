import Mathlib.Data.List.Forall2
import SoccerWorld.Proofs.Locomotion.DashCount

/-!
# Longer ways and slower players take more dashes

Halving a list gives a later position when more entries pass
(`Locomotion.splitPoint_le_splitPoint`), also on a list that is not sorted.  So the count of dashes
grows with the distance, whatever the dash table holds, and it shrinks when dashes go farther
(`Locomotion.Outruns.dashCount_le`).  A type with more acceleration and a higher speed limit is
such a case (`Locomotion.outruns_ofType`).  The order is that of the words too, where a word can
hold the larger count (`Locomotion.Outruns.cyclesToReach_le`).
-/

namespace SoccerWorld
namespace Locomotion

/-! ## The split point of a list with more passing entries -/

section SplitPoint

variable {R : Type} {xs ys : List R} {test other : R → Bool}

/-- One halving, where a position outside the list counts as failing. -/
theorem splitPointFrom_eq (xs : List R) (test : R → Bool) (base size : Nat) :
    splitPointFrom xs test base size =
      if size ≤ 1 then if xs[base]?.any test then base + 1 else base
      else splitPointFrom xs test (if xs[base + size / 2]?.any test then base + size / 2 else base)
        (size - size / 2) := by
  rw [splitPointFrom]
  dsimp only
  split
  · cases xs[base]? <;> simp
  · cases xs[base + size / 2]? <;> simp

/-- The split point of a stretch lies in it, and is not its end if the last entry fails. -/
theorem splitPointFrom_bounds (xs : List R) (test : R → Bool) (base size : Nat)
    (hSize : 0 < size) :
    base ≤ splitPointFrom xs test base size ∧ splitPointFrom xs test base size ≤ base + size ∧
      (xs[base + size - 1]?.any test = false →
        splitPointFrom xs test base size < base + size) := by
  induction size using Nat.strong_induction_on generalizing base with
  | _ size ih =>
      rw [splitPointFrom_eq]
      split
      · obtain rfl : size = 1 := by omega
        rw [Nat.add_sub_cancel]
        split <;> simp_all
      · split
        · have hRest := ih (size - size / 2) (by omega) (base + size / 2) (by omega)
          rw [show base + size / 2 + (size - size / 2) = base + size by omega] at hRest
          exact ⟨by omega, hRest.2⟩
        · have hRest := ih (size - size / 2) (by omega) base (by omega)
          omega

/-- If every entry that passes is matched by one that passes, no split point is later. -/
theorem splitPointFrom_le_splitPointFrom
    (hPasses : ∀ index : Nat, xs[index]?.any test = true → ys[index]?.any other = true)
    (base size : Nat) : splitPointFrom xs test base size ≤ splitPointFrom ys other base size := by
  induction size using Nat.strong_induction_on generalizing base with
  | _ size ih =>
      rw [splitPointFrom_eq xs, splitPointFrom_eq ys]
      split
      · have hHere := hPasses base
        split <;> split <;> simp_all
      · have hMiddle := hPasses (base + size / 2)
        by_cases hTest : xs[base + size / 2]?.any test = true
        · rw [if_pos hTest, if_pos (hMiddle hTest)]
          exact ih _ (by omega) _
        · rw [if_neg hTest]
          split
          · -- Only the second search goes on behind the middle, where the first one fails.
            have hFirst := splitPointFrom_bounds xs test base (size - size / 2) (by omega)
            have hSecond := splitPointFrom_bounds ys other (base + size / 2)
              (size - size / 2) (by omega)
            rcases Nat.lt_or_ge (size / 2) (size - size / 2) with hOdd | hEven
            · rw [Bool.not_eq_true,
                show base + size / 2 = base + (size - size / 2) - 1 by omega] at hTest
              have hBefore := hFirst.2.2 hTest
              omega
            · omega
          · exact ih _ (by omega) _

theorem any_getElem?_of_forall₂
    (hPasses : List.Forall₂ (fun x y => test x = true → other y = true) xs ys) (index : Nat) :
    xs[index]?.any test = true → ys[index]?.any other = true := by
  induction hPasses generalizing index with
  | nil => simp
  | cons hHead _ ih =>
      cases index with
      | zero => simpa using hHead
      | succ index => simpa using ih index

theorem splitPoint_le_splitPoint
    (hPasses : List.Forall₂ (fun x y => test x = true → other y = true) xs ys) :
    splitPoint xs test ≤ splitPoint ys other := by
  unfold splitPoint
  rw [hPasses.length_eq]
  exact splitPointFrom_le_splitPointFrom (any_getElem?_of_forall₂ hPasses) 0 ys.length

end SplitPoint

/-! ## The order of motions -/

/-- Dashes of the first motion go at least as far as those of the second. -/
structure Outruns (fast slow : Locomotion ℝ) : Prop where
  /-- So many dashes cover no less ground. -/
  dashDistances_le : List.Forall₂ (fun covered covered' => covered ≤ covered')
    slow.dashDistances fast.dashDistances
  /-- The top speed is no lower. -/
  topSpeed_le : slow.topSpeed ≤ fast.topSpeed

theorem Outruns.refl (motion : Locomotion ℝ) : motion.Outruns motion :=
  ⟨List.forall₂_refl motion.dashDistances, le_refl motion.topSpeed⟩

/-- Dashes from a higher speed, with more acceleration, go farther. -/
theorem forall₂_dashTable {decay acceleration acceleration' speedMax speedMax' : ℝ}
    (hDecay : 0 ≤ decay) (hAcceleration : acceleration ≤ acceleration')
    (hSpeedMax : speedMax ≤ speedMax') (n : Nat) {speed speed' covered covered' : ℝ}
    (hSpeed : speed ≤ speed') (hCovered : covered ≤ covered') :
    List.Forall₂ (fun covered covered' => covered ≤ covered')
      (dashTable acceleration speedMax decay n speed covered)
      (dashTable acceleration' speedMax' decay n speed' covered') := by
  induction n generalizing speed speed' covered covered' with
  | zero => exact List.Forall₂.nil
  | succ n ih =>
      have hReached : min (speed + acceleration) speedMax ≤
          min (speed' + acceleration') speedMax' :=
        min_le_min (add_le_add hSpeed hAcceleration) hSpeedMax
      simp only [dashTable, ExactReal.minimum_eq]
      exact List.Forall₂.cons (add_le_add hCovered hReached)
        (ih (mul_le_mul_of_nonneg_right hReached hDecay) (add_le_add hCovered hReached))

/-- A type with more acceleration and a higher speed limit goes farther, if it slows down alike. -/
theorem outruns_ofType {fast slow : PlayerType ℝ} {rules : Rules ℝ} (hNonneg : 0 ≤ slow.decay)
    (hFriction : slow.decay < 1) (hDecay : fast.decay = slow.decay)
    (hAcceleration : acceleration slow rules ≤ acceleration fast rules)
    (hSpeedMax : slow.speedMax ≤ fast.speedMax) :
    (ofType fast rules).Outruns (ofType slow rules) := by
  have hOne : (1.0 : ℝ) = 1 := by norm_num
  have hSlows : Scalar.lt slow.decay 1.0 = true := by simpa [hOne] using hFriction
  constructor
  · simp only [ofType, hDecay]
    exact forall₂_dashTable hNonneg hAcceleration hSpeedMax tableLength (le_refl _) (le_refl _)
  · have hRest : (0 : ℝ) ≤ 1.0 - slow.decay := by linarith
    simp only [ofType, hDecay, hSlows, if_true, ExactReal.minimum_eq]
    exact min_le_min hSpeedMax (div_le_div_of_nonneg_right hAcceleration hRest)

/-! ## The order of counts -/

theorem dashCount_of_nonpos (motion : Locomotion ℝ) {dist : ℝ} (hDist : dist ≤ 0) :
    motion.dashCount dist = 0 := by
  have hZero : (0.0 : ℝ) = 0 := by norm_num
  simp [dashCount, hZero, hDist]

theorem dashCount_pos (motion : Locomotion ℝ) (hTable : motion.dashDistances ≠ []) {dist : ℝ}
    (hDist : 0 < dist) : 0 < motion.dashCount dist := by
  have hZero : (0.0 : ℝ) = 0 := by norm_num
  have hLength := List.length_pos_iff.mpr hTable
  simp only [dashCount, ExactReal.le_eq_true_iff, hZero, hDist.not_ge, if_false]
  split <;> omega

theorem cyclesToReach_of_nonpos (motion : Locomotion ℝ) {dist : ℝ} (hDist : dist ≤ 0) :
    motion.cyclesToReach dist = 0 := by
  rw [cyclesToReach_eq_ofNat, motion.dashCount_of_nonpos hDist]
  rfl

/-- A smaller share is rounded up to a smaller word.  Shares below zero count as none. -/
theorem ofInt_ceiling_le {share share' : ℝ} (hShare : share ≤ max share' 0) :
    (Word.ofInt (Scalar.ceiling share)).toNat ≤ (Word.ofInt (Scalar.ceiling share')).toNat := by
  have hWord := Word.toNat_ofInt (Scalar.ceiling share)
  have hWord' := Word.toNat_ofInt (Scalar.ceiling share')
  have hCeiling : Scalar.ceiling share ≤ max (Scalar.ceiling share') 0 := by
    show ⌈share⌉ ≤ max ⌈share'⌉ 0
    rw [Int.ceil_le]
    push_cast
    exact hShare.trans (max_le_max_right 0 (Int.le_ceil share'))
  omega

theorem getLast?_le_of_forall₂ {xs ys : List ℝ}
    (hTable : List.Forall₂ (fun covered covered' => covered ≤ covered') xs ys) (base : ℝ) :
    xs.getLast?.getD base ≤ ys.getLast?.getD base := by
  rw [← List.forall₂_reverse_iff] at hTable
  rw [← List.head?_reverse, ← List.head?_reverse]
  generalize xs.reverse = xs, ys.reverse = ys at hTable
  cases hTable with
  | nil => exact le_refl base
  | cons hHead _ => simpa using hHead

/-- Who goes farther with each dash needs no more dashes for a way that is no longer. -/
theorem Outruns.dashCount_le {fast slow : Locomotion ℝ} (hOutruns : fast.Outruns slow)
    {near far : ℝ} (hDist : near ≤ far) : fast.dashCount near ≤ slow.dashCount far := by
  have hZero : (0.0 : ℝ) = 0 := by norm_num
  have hLength := hOutruns.dashDistances_le.length_eq
  have hLast := getLast?_le_of_forall₂ hOutruns.dashDistances_le 0.0
  have hSplit : splitPoint fast.dashDistances (fun d => Scalar.lt d (near - 1.0e-9)) ≤
      splitPoint slow.dashDistances fun d => Scalar.lt d (far - 1.0e-9) := by
    refine splitPoint_le_splitPoint (hOutruns.dashDistances_le.flip.imp ?_)
    intro covered covered' hCovered hShort
    rw [ExactReal.lt_eq_true_iff] at hShort ⊢
    linarith
  rcases le_or_gt near 0 with hNone | hSome
  · rw [fast.dashCount_of_nonpos hNone]
    exact Nat.zero_le _
  · have hFar : ¬ far ≤ 0 := by linarith
    simp only [dashCount, ExactReal.le_eq_true_iff, hZero, hSome.not_ge, hFar, if_false]
    simp only [hZero] at hLast
    have hTop : (0 : ℝ) < max slow.topSpeed 1.0e-6 := lt_max_of_lt_right (by norm_num)
    have hTops : max slow.topSpeed 1.0e-6 ≤ max fast.topSpeed 1.0e-6 :=
      max_le_max_right _ hOutruns.topSpeed_le
    have hRests := sub_le_sub hDist hLast
    simp only [ExactReal.maximum_eq]
    generalize near - fast.dashDistances.getLast?.getD 0 = rest at hRests ⊢
    generalize far - slow.dashDistances.getLast?.getD 0 = rest' at hRests ⊢
    have hShare : rest / max fast.topSpeed 1.0e-6 ≤ max (rest' / max slow.topSpeed 1.0e-6) 0 := by
      rcases le_or_gt rest' 0 with hNone | hSome
      · exact le_max_of_le_right
          (div_nonpos_of_nonpos_of_nonneg (hRests.trans hNone) (hTop.le.trans hTops))
      · exact le_max_of_le_left (div_le_div₀ hSome.le hRests hTop hTops)
    have hWords := ofInt_ceiling_le hShare
    -- A count from the table is no larger than the table, and a count beyond it is no smaller.
    split
    · split <;> omega
    · split <;> omega

end Locomotion
end SoccerWorld
