import Mathlib.Data.Real.Basic
import SoccerWorld.Locomotion.Basic
import SoccerWorld.Proofs.Numeric.ExactReal

/-!
# How far dashes go

Halving finds the split point of a list whose front passes a test
(`Locomotion.isSplitPoint_splitPoint`).  The dash table is such a list, because dashes cover more
and more (`Locomotion.pairwise_dashTable`).  No dash is faster than the top speed of the type, so
the count of dashes for a distance is never too low: at top speed that many cycles would do, up to
the table's slack (`Locomotion.le_dashCount_mul`).  Dashes that do not accelerate cover nothing
in the table, and are extrapolated (`Locomotion.le_dashCount_mul_of_nonpos`).

`Locomotion.dashCount` counts without a limit.  `Locomotion.cyclesToReach` is that count as long as
a word can hold it (`Locomotion.toNat_cyclesToReach`).  A count that a word can hold is one of a
distance within bounds (`Locomotion.le_of_dashCount_lt`), and so far away that the dashes beyond the
table fill a word, the sum always wraps to the same number (`Locomotion.cyclesToReach_of_far`).
-/

namespace SoccerWorld

/-- A word below the largest one is not below its number. -/
theorem Word.le_toNat_ofInt {n : Int} (hFits : (Word.ofInt n).toNat < 4294967295) :
    n ≤ (Word.ofInt n).toNat := by
  have hWord := Word.toNat_ofInt n
  omega

/-- From the largest word on, all numbers are cut off there. -/
theorem Word.ofInt_eq_of_le {n : Int} (hLarge : 4294967295 ≤ n) : Word.ofInt n = 4294967295 := by
  have hWord := Word.toNat_ofInt n
  refine UInt32.toNat.inj ?_
  show (Word.ofInt n).toNat = 4294967295
  omega

theorem Word.toNat_ofInt_le (n : Int) : ((Word.ofInt n).toNat : Int) ≤ max n 0 := by
  have hWord := Word.toNat_ofInt n
  omega

namespace Locomotion

/-! ## The split point -/

section SplitPoint

variable {R : Type}

/-- The entries before this position pass the test, and those from it on fail. -/
structure IsSplitPoint (xs : List R) (test : R → Bool) (position : Nat) : Prop where
  le_length : position ≤ xs.length
  test_iff : ∀ (index : Nat) x, xs[index]? = some x → (test x = true ↔ index < position)

variable {xs : List R} {test : R → Bool}

/-- Where later entries fail whenever earlier ones do, one entry decides about all others. -/
theorem test_of_le (hFront : xs.Pairwise fun a b => test b = true → test a = true)
    {earlier later : Nat} {x y : R} (hx : xs[earlier]? = some x) (hy : xs[later]? = some y)
    (hLe : earlier ≤ later) (hTest : test y = true) : test x = true := by
  rcases Nat.lt_or_eq_of_le hLe with hLess | rfl
  · obtain ⟨hEarlier, rfl⟩ := List.getElem?_eq_some_iff.mp hx
    obtain ⟨hLater, rfl⟩ := List.getElem?_eq_some_iff.mp hy
    exact List.pairwise_iff_getElem.mp hFront earlier later hEarlier hLater hLess hTest
  · rw [hx] at hy
    obtain rfl := Option.some.inj hy
    exact hTest

/-- A stretch of which all entries before it pass and all entries behind it fail is halved until one
entry is left. -/
theorem isSplitPoint_splitPointFrom
    (hFront : xs.Pairwise fun a b => test b = true → test a = true) (base size : Nat)
    (hSize : 0 < size) (hBound : base + size ≤ xs.length)
    (hBefore : ∀ (index : Nat) x, xs[index]? = some x → index < base → test x = true)
    (hBehind : ∀ (index : Nat) x, xs[index]? = some x → base + size ≤ index → test x = false) :
    IsSplitPoint xs test (splitPointFrom xs test base size) := by
  induction base, size using splitPointFrom.induct xs test with
  | case1 base size hSmall x hx hPasses =>
      rw [splitPointFrom, if_pos hSmall, hx]
      dsimp only
      rw [if_pos hPasses]
      refine ⟨by omega, fun index y hy => ⟨fun hTest => ?_, fun hLess => ?_⟩⟩
      · by_contra hAfter
        have hFails := hBehind index y hy (by omega)
        rw [hTest] at hFails
        contradiction
      · exact test_of_le hFront hy hx (by omega) hPasses
  | case2 base size hSmall x hx hFails =>
      rw [splitPointFrom, if_pos hSmall, hx]
      dsimp only
      rw [if_neg hFails]
      refine ⟨by omega, fun index y hy => ⟨fun hTest => ?_, hBefore index y hy⟩⟩
      by_contra hAfter
      exact hFails (test_of_le hFront hx hy (by omega) hTest)
  | case3 base size hSmall hNone =>
      have hOutside := List.getElem?_eq_none_iff.mp hNone
      omega
  | case4 base size hLarge half next ih =>
      obtain ⟨x, hx⟩ : ∃ x, xs[base + half]? = some x :=
        ⟨_, List.getElem?_eq_getElem (show base + half < xs.length by omega)⟩
      rw [splitPointFrom, if_neg hLarge]
      dsimp only [next] at ih ⊢
      rw [hx] at ih
      rw [show size / 2 = half from rfl, hx]
      dsimp only at ih ⊢
      by_cases hPasses : test x = true
      · rw [dif_pos hPasses] at ih
        rw [if_pos hPasses]
        refine ih (by omega) (by omega) ?_ ?_
        · intro index y hy hLess
          exact test_of_le hFront hy hx (by omega) hPasses
        · intro index y hy hLater
          exact hBehind index y hy (by omega)
      · rw [dif_neg hPasses] at ih
        rw [if_neg hPasses]
        refine ih (by omega) (by omega) hBefore ?_
        intro index y hy hLater
        rw [Bool.eq_false_iff]
        intro hTest
        exact hPasses (test_of_le hFront hx hy (by omega) hTest)

/-- Halving finds the split point. -/
theorem isSplitPoint_splitPoint
    (hFront : xs.Pairwise fun a b => test b = true → test a = true) :
    IsSplitPoint xs test (splitPoint xs test) := by
  unfold splitPoint
  cases hLength : xs.length with
  | zero =>
      obtain rfl := List.length_eq_zero_iff.mp hLength
      rw [splitPointFrom, if_pos (by omega)]
      exact ⟨Nat.le_refl 0, fun index x hNone => by simp at hNone⟩
  | succ n =>
      refine isSplitPoint_splitPointFrom hFront 0 (n + 1) (by omega) (by omega) ?_ ?_
      · intro index x _ hNone
        omega
      · intro index x hx hOutside
        obtain ⟨hInside, -⟩ := List.getElem?_eq_some_iff.mp hx
        omega

theorem splitPoint_eq_length (hAll : ∀ x ∈ xs, test x = true) : splitPoint xs test = xs.length := by
  have hFront : xs.Pairwise fun a b => test b = true → test a = true :=
    List.pairwise_of_forall_mem_list fun a hMem _ _ _ => hAll a hMem
  have hSplit := isSplitPoint_splitPoint hFront
  refine hSplit.le_length.antisymm ?_
  by_contra hShort
  have hEntry := List.getElem?_eq_getElem (not_le.mp hShort)
  exact lt_irrefl _ ((hSplit.test_iff _ _ hEntry).mp (hAll _ (List.getElem_mem _)))

end SplitPoint

/-! ## The dash table -/

section DashTable

variable {acceleration speedMax decay : ℝ}

/-- No dash covers more than top speed does. -/
theorem dashTable_le (n : Nat) {speed covered : ℝ} (index : Nat) {total : ℝ}
    (hTotal : (dashTable acceleration speedMax decay n speed covered)[index]? = some total) :
    total ≤ covered + (index + 1) * speedMax := by
  induction n generalizing speed covered index with
  | zero => contradiction
  | succ n ih =>
      have hTop := min_le_right (speed + acceleration) speedMax
      rw [dashTable, ExactReal.minimum_eq] at hTotal
      cases index with
      | zero =>
          obtain rfl := Option.some.inj hTotal
          rw [Nat.cast_zero, zero_add, one_mul]
          linarith
      | succ index =>
          rw [List.getElem?_cons_succ] at hTotal
          have hLater := ih index hTotal
          push_cast
          linarith

variable (hAcceleration : 0 ≤ acceleration) (hSpeedMax : 0 ≤ speedMax) (hDecay : 0 ≤ decay)

include hAcceleration hSpeedMax hDecay

/-- Dashes cover ground. -/
theorem le_dashTable (n : Nat) {speed covered : ℝ} (hSpeed : 0 ≤ speed) :
    ∀ total ∈ dashTable acceleration speedMax decay n speed covered, covered ≤ total := by
  induction n generalizing speed covered with
  | zero => simp [dashTable]
  | succ n ih =>
      have hReached : 0 ≤ min (speed + acceleration) speedMax :=
        le_min (add_nonneg hSpeed hAcceleration) hSpeedMax
      simp only [dashTable, ExactReal.minimum_eq, List.forall_mem_cons]
      refine ⟨by linarith, fun total hMem => ?_⟩
      have hLater := ih (mul_nonneg hReached hDecay) total hMem
      linarith

/-- Later entries of the table are larger. -/
theorem pairwise_dashTable (n : Nat) {speed covered : ℝ} (hSpeed : 0 ≤ speed) :
    (dashTable acceleration speedMax decay n speed covered).Pairwise fun a b => a ≤ b := by
  induction n generalizing speed covered with
  | zero => exact List.Pairwise.nil
  | succ n ih =>
      have hReached : 0 ≤ min (speed + acceleration) speedMax :=
        le_min (add_nonneg hSpeed hAcceleration) hSpeedMax
      rw [dashTable, ExactReal.minimum_eq]
      exact List.Pairwise.cons
        (le_dashTable hAcceleration hSpeedMax hDecay n (mul_nonneg hReached hDecay))
        (ih (mul_nonneg hReached hDecay))

end DashTable

/-- Dashes that do not accelerate cover no ground. -/
theorem dashTable_nonpos {acceleration decay : ℝ} (speedMax : ℝ) (hAcceleration : acceleration ≤ 0)
    (hDecay : 0 ≤ decay) (n : Nat) {speed covered : ℝ} (hSpeed : speed ≤ 0)
    (hCovered : covered ≤ 0) :
    ∀ total ∈ dashTable acceleration speedMax decay n speed covered, total ≤ 0 := by
  induction n generalizing speed covered with
  | zero => simp [dashTable]
  | succ n ih =>
      have hReached : min (speed + acceleration) speedMax ≤ 0 :=
        (min_le_left _ _).trans (add_nonpos hSpeed hAcceleration)
      simp only [dashTable, ExactReal.minimum_eq, List.forall_mem_cons]
      exact ⟨add_nonpos hCovered hReached,
        ih (mul_nonpos_of_nonpos_of_nonneg hReached hDecay) (add_nonpos hCovered hReached)⟩

/-! ## The count of dashes -/

/-- Dashes needed to cover `dist` from rest, as a number of any size. -/
def dashCount {R : Type} [Scalar R] (motion : Locomotion R) (dist : R) : Nat :=
  if Scalar.le dist 0.0 then 0
  else
    let covered := splitPoint motion.dashDistances fun d => Scalar.lt d (dist - 1.0e-9)
    if covered < motion.dashDistances.length then covered + 1
    else
      let last := motion.dashDistances.getLast?.getD 0.0
      let rest := Scalar.ceiling ((dist - last) / Scalar.maximum motion.topSpeed 1.0e-6)
      motion.dashDistances.length + (Word.ofInt rest).toNat

section Word

variable {R : Type} [Scalar R] (motion : Locomotion R)

/-- The cycles to reach a distance are the count of dashes, as far as a word can hold it. -/
theorem cyclesToReach_eq_ofNat (dist : R) :
    motion.cyclesToReach dist = UInt32.ofNat (motion.dashCount dist) := by
  simp only [cyclesToReach, dashCount]
  split
  · rfl
  · split
    · rw [UInt32.ofNat_add]
      rfl
    · rw [UInt32.ofNat_add, UInt32.ofNat_toNat]

theorem toNat_cyclesToReach {dist : R} (hFits : motion.dashCount dist < 4294967296) :
    (motion.cyclesToReach dist).toNat = motion.dashCount dist := by
  rw [cyclesToReach_eq_ofNat, UInt32.toNat_ofNat', Nat.mod_eq_of_lt hFits]

end Word

/-- Dashes reach no more than the greatest speed of the type. -/
theorem topSpeed_ofType_le (type : PlayerType ℝ) (rules : Rules ℝ) :
    (ofType type rules).topSpeed ≤ type.speedMax := by
  show (if _ then _ else _) ≤ _
  split
  · rw [ExactReal.minimum_eq]
    exact min_le_left _ _
  · exact le_refl _

section Count

variable (type : PlayerType ℝ) (rules : Rules ℝ)

theorem length_dashDistances_ofType :
    (ofType type rules).dashDistances.length = tableLength :=
  length_dashTable _ _ _ _ _ _

theorem dashDistances_le (index : Nat) {total : ℝ}
    (hTotal : (ofType type rules).dashDistances[index]? = some total) :
    total ≤ (index + 1) * type.speedMax := by
  have hZero : (0.0 : ℝ) = 0 := by norm_num
  have hTop := dashTable_le tableLength index hTotal
  rw [hZero, zero_add] at hTop
  exact hTop

section Speed

variable (hSpeedMax : 0 ≤ type.speedMax)

include hSpeedMax

/-- All dashes of the table together are not faster than top speed. -/
theorem le_of_mem_dashDistances :
    ∀ total ∈ (ofType type rules).dashDistances, total ≤ tableLength * type.speedMax := by
  intro total hMem
  obtain ⟨index, hTotal⟩ := List.mem_iff_getElem?.mp hMem
  obtain ⟨hIndex, -⟩ := List.getElem?_eq_some_iff.mp hTotal
  rw [length_dashDistances_ofType] at hIndex
  refine (dashDistances_le type rules index hTotal).trans ?_
  exact mul_le_mul_of_nonneg_right (by exact_mod_cast hIndex) hSpeedMax

theorem last_dashDistances_le :
    (ofType type rules).dashDistances.getLast?.getD 0 ≤ tableLength * type.speedMax := by
  cases hEntry : (ofType type rules).dashDistances.getLast? with
  | none => exact mul_nonneg (Nat.cast_nonneg _) hSpeedMax
  | some last =>
      exact le_of_mem_dashDistances type rules hSpeedMax last (List.mem_of_getLast? hEntry)

end Speed

variable (hDecay : 0 ≤ type.decay) (hAcceleration : 0 ≤ acceleration type rules)
  (hSpeedMax : 0 ≤ type.speedMax)

include hDecay hAcceleration hSpeedMax

theorem dashDistances_nonneg : ∀ total ∈ (ofType type rules).dashDistances, 0 ≤ total := by
  have hZero : (0.0 : ℝ) = 0 := by norm_num
  intro total hMem
  exact hZero.ge.trans (le_dashTable hAcceleration hSpeedMax hDecay tableLength hZero.ge total hMem)

/-- Halving finds where the table is no longer too short. -/
theorem isSplitPoint_dashDistances (bound : ℝ) :
    IsSplitPoint (ofType type rules).dashDistances (fun d => Scalar.lt d bound)
      (splitPoint (ofType type rules).dashDistances fun d => Scalar.lt d bound) := by
  have hZero : (0.0 : ℝ) = 0 := by norm_num
  have hSorted : (ofType type rules).dashDistances.Pairwise fun a b => a ≤ b :=
    pairwise_dashTable hAcceleration hSpeedMax hDecay tableLength hZero.ge
  refine isSplitPoint_splitPoint (hSorted.imp ?_)
  intro a b hLe hLess
  rw [ExactReal.lt_eq_true_iff] at hLess ⊢
  exact lt_of_le_of_lt hLe hLess

/-- The first entry that is not too short for a distance is long enough. -/
theorem le_dashDistances_of_splitPoint {bound total : ℝ}
    (hTotal : (ofType type rules).dashDistances[splitPoint (ofType type rules).dashDistances
      fun d => Scalar.lt d bound]? = some total) : bound ≤ total := by
  have hSplit := ((isSplitPoint_dashDistances type rules hDecay hAcceleration hSpeedMax
    bound).test_iff _ total hTotal).not.mpr (lt_irrefl _)
  rw [ExactReal.lt_eq_true_iff, not_lt] at hSplit
  exact hSplit

theorem last_dashDistances_nonneg : 0 ≤ (ofType type rules).dashDistances.getLast?.getD 0 := by
  cases hEntry : (ofType type rules).dashDistances.getLast? with
  | none => exact le_refl 0
  | some last =>
      exact dashDistances_nonneg type rules hDecay hAcceleration hSpeedMax last
        (List.mem_of_getLast? hEntry)

end Count

/-- A share of a way per cycle is covered in as many cycles as the share rounded up. -/
theorem mul_le_ceiling_mul (share : ℝ) {way speed : ℝ} (hPositive : 0 < way) (hWay : way ≤ speed)
    (hFits : (Word.ofInt (Scalar.ceiling share)).toNat < 4294967295) :
    share * way ≤ (Word.ofInt (Scalar.ceiling share)).toNat * speed := by
  have hWord := Word.le_toNat_ofInt hFits
  generalize (Word.ofInt (Scalar.ceiling share)).toNat = cycles at hWord ⊢
  have hShare : share ≤ cycles := by
    have hCeiling : ⌈share⌉ ≤ (cycles : ℤ) := hWord
    exact_mod_cast Int.ceil_le.mp hCeiling
  calc share * way ≤ cycles * way := mul_le_mul_of_nonneg_right hShare hPositive.le
    _ ≤ cycles * speed := mul_le_mul_of_nonneg_left hWay (Nat.cast_nonneg cycles)

section Beyond

variable (type : PlayerType ℝ) (rules : Rules ℝ) (hSpeedMax : 0 ≤ type.speedMax) {dist : ℝ}

/-- A distance is beyond the table if it exceeds every entry by more than the table's slack. -/
def IsBeyondTable {R : Type} [Scalar R] (motion : Locomotion R) (dist : R) : Prop :=
  ∀ total ∈ motion.dashDistances, Scalar.lt total (dist - 1.0e-9) = true

theorem isBeyondTable_iff {motion : Locomotion ℝ} :
    motion.IsBeyondTable dist ↔ ∀ total ∈ motion.dashDistances, total + (10 ^ 9)⁻¹ < dist := by
  have hSlack : (1.0e-9 : ℝ) = (10 ^ 9)⁻¹ := by norm_num
  unfold IsBeyondTable
  simp only [ExactReal.lt_eq_true_iff, hSlack, lt_sub_iff_add_lt]

/-- A player that is extrapolated goes at top speed, or at the least speed that is divided by. -/
theorem extrapolated_ofType_le :
    max (ofType type rules).topSpeed 1.0e-6 ≤ max type.speedMax (10 ^ 6)⁻¹ := by
  have hLeast : (1.0e-6 : ℝ) = (10 ^ 6)⁻¹ := by norm_num
  rw [hLeast]
  exact max_le_max_right _ (topSpeed_ofType_le type rules)

/-- The count for a way beyond the table. -/
theorem dashCount_of_beyond (hDist : 0 < dist) (hBeyond : (ofType type rules).IsBeyondTable dist) :
    (ofType type rules).dashCount dist = tableLength + (Word.ofInt (Scalar.ceiling
      ((dist - (ofType type rules).dashDistances.getLast?.getD 0) /
        max (ofType type rules).topSpeed 1.0e-6))).toNat := by
  have hZero : (0.0 : ℝ) = 0 := by norm_num
  simp only [dashCount, ExactReal.le_eq_true_iff, hZero, hDist.not_ge, if_false,
    splitPoint_eq_length hBeyond, lt_irrefl, length_dashDistances_ofType, ExactReal.maximum_eq]

include hSpeedMax

/-- A distance that is not beyond the table is covered by the dashes of the table, up to slack. -/
theorem le_of_not_beyond (hTable : ¬ (ofType type rules).IsBeyondTable dist) :
    dist ≤ tableLength * type.speedMax + (10 ^ 9)⁻¹ := by
  simp only [isBeyondTable_iff, not_forall, not_lt] at hTable
  obtain ⟨total, hMem, hCovered⟩ := hTable
  have hTop := le_of_mem_dashDistances type rules hSpeedMax total hMem
  linarith

/-- For a way beyond the table the dashes that are added are no faster than top speed. -/
theorem le_dashCount_mul_of_beyond (hDist : 0 < dist)
    (hBeyond : (ofType type rules).IsBeyondTable dist)
    (hFits : (ofType type rules).dashCount dist < 4294967296) :
    dist ≤ (ofType type rules).dashCount dist * max type.speedMax (10 ^ 6)⁻¹ := by
  have hLast := last_dashDistances_le type rules hSpeedMax
  have hPositive : 0 < max (ofType type rules).topSpeed 1.0e-6 :=
    lt_max_of_lt_right (by norm_num)
  rw [dashCount_of_beyond type rules hDist hBeyond] at hFits ⊢
  generalize (ofType type rules).dashDistances.getLast?.getD 0 = last at hFits hLast ⊢
  have hRest := mul_le_ceiling_mul ((dist - last) / max (ofType type rules).topSpeed 1.0e-6)
    hPositive (extrapolated_ofType_le type rules) (by unfold tableLength at hFits; omega)
  rw [div_mul_cancel₀ _ hPositive.ne'] at hRest
  have hTable : tableLength * type.speedMax ≤ tableLength * max type.speedMax (10 ^ 6)⁻¹ :=
    mul_le_mul_of_nonneg_left (le_max_left _ _) (Nat.cast_nonneg _)
  push_cast
  linarith

/-- A distance whose count of dashes can be held by a word is within what so many cycles cover. -/
theorem le_of_dashCount_lt (hFits : (ofType type rules).dashCount dist < 4294967296) :
    dist ≤ 4294967296 * max type.speedMax (10 ^ 6)⁻¹ := by
  have hLeast : ((10 ^ 6)⁻¹ : ℝ) ≤ max type.speedMax (10 ^ 6)⁻¹ := le_max_right _ _
  have hTop := le_max_left type.speedMax (10 ^ 6)⁻¹
  generalize hSpeed : max type.speedMax (10 ^ 6)⁻¹ = speed at hLeast hTop ⊢
  have hPositive : 0 < speed := lt_of_lt_of_le (by norm_num) hLeast
  rcases le_or_gt dist 0 with hNear | hFar
  · linarith
  · by_cases hBeyond : (ofType type rules).IsBeyondTable dist
    · have hWay := le_dashCount_mul_of_beyond type rules hSpeedMax hFar hBeyond hFits
      rw [hSpeed] at hWay
      have hCount : ((ofType type rules).dashCount dist : ℝ) ≤ 4294967296 := by
        exact_mod_cast hFits.le
      exact hWay.trans (mul_le_mul_of_nonneg_right hCount hPositive.le)
    · have hTable := le_of_not_beyond type rules hSpeedMax hBeyond
      norm_num [tableLength] at hTable hLeast
      linarith

/-- So far away that the dashes beyond the table fill a word, adding the table to them wraps. -/
theorem cyclesToReach_of_far (hFar : 4294967346 * max type.speedMax (10 ^ 6)⁻¹ ≤ dist) :
    (ofType type rules).cyclesToReach dist = 49 := by
  have hLeast : ((10 ^ 6)⁻¹ : ℝ) ≤ max type.speedMax (10 ^ 6)⁻¹ := le_max_right _ _
  have hTop := le_max_left type.speedMax (10 ^ 6)⁻¹
  have hWay := extrapolated_ofType_le type rules
  have hPositive : 0 < max (ofType type rules).topSpeed 1.0e-6 :=
    lt_max_of_lt_right (by norm_num)
  have hLast := last_dashDistances_le type rules hSpeedMax
  generalize max type.speedMax (10 ^ 6)⁻¹ = speed at hFar hLeast hTop hWay
  have hSpeed : 0 < speed := lt_of_lt_of_le (by norm_num) hLeast
  have hDist : 0 < dist := by linarith
  have hBeyond : (ofType type rules).IsBeyondTable dist := by
    rw [isBeyondTable_iff]
    intro total hMem
    have hEntry := le_of_mem_dashDistances type rules hSpeedMax total hMem
    norm_num [tableLength] at hEntry hLeast ⊢
    linarith
  rw [cyclesToReach_eq_ofNat, dashCount_of_beyond type rules hDist hBeyond]
  generalize (ofType type rules).dashDistances.getLast?.getD 0 = last at hLast ⊢
  generalize max (ofType type rules).topSpeed 1.0e-6 = way at hWay hPositive ⊢
  have hFull : (4294967295 : ℤ) ≤ Scalar.ceiling ((dist - last) / way) := by
    have hShare : (4294967295 : ℝ) ≤ (dist - last) / way := by
      rw [le_div_iff₀ hPositive]
      norm_num [tableLength] at hLast
      linarith
    have hCeiling := hShare.trans (Int.le_ceil _)
    exact_mod_cast hCeiling
  rw [Word.ofInt_eq_of_le hFull]
  rfl

end Beyond

section TopSpeed

variable (type : PlayerType ℝ) (rules : Rules ℝ) (hSpeedMax : (10 ^ 6)⁻¹ ≤ type.speedMax)
  (hDecay : 0 ≤ type.decay)

include hSpeedMax hDecay

/-- At top speed as many cycles as dashes would cover the distance. -/
theorem le_dashCount_mul (hAcceleration : 0 ≤ acceleration type rules) (dist : ℝ)
    (hFits : (ofType type rules).dashCount dist < 4294967296) :
    dist ≤ (ofType type rules).dashCount dist * type.speedMax + (10 ^ 9)⁻¹ := by
  have hZero : (0.0 : ℝ) = 0 := by norm_num
  have hSpeed : 0 ≤ type.speedMax := le_trans (by norm_num) hSpeedMax
  rcases le_or_gt dist 0 with hNear | hFar
  · have hCovered : 0 ≤ (ofType type rules).dashCount dist * type.speedMax :=
      mul_nonneg (Nat.cast_nonneg _) hSpeed
    linarith
  · by_cases hBeyond : (ofType type rules).IsBeyondTable dist
    · have hWay := le_dashCount_mul_of_beyond type rules hSpeed hFar hBeyond hFits
      rw [max_eq_left hSpeedMax] at hWay
      linarith
    · -- Halving stops at an entry of the table, because one is long enough.
      have hInside : splitPoint (ofType type rules).dashDistances
          (fun d => Scalar.lt d (dist - 1.0e-9)) < (ofType type rules).dashDistances.length := by
        by_contra hOutside
        refine hBeyond ?_
        intro total hMem
        obtain ⟨index, hEntry⟩ := List.mem_iff_getElem?.mp hMem
        obtain ⟨hIndex, -⟩ := List.getElem?_eq_some_iff.mp hEntry
        have hShort := ((isSplitPoint_dashDistances type rules hDecay hAcceleration hSpeed
          (dist - 1.0e-9)).test_iff index total hEntry).mpr (by omega)
        rw [ExactReal.lt_eq_true_iff] at hShort
        norm_num at hShort ⊢
        linarith
      have hTotal := List.getElem?_eq_getElem hInside
      have hReached :=
        le_dashDistances_of_splitPoint type rules hDecay hAcceleration hSpeed hTotal
      have hTop := dashDistances_le type rules _ hTotal
      simp only [dashCount, ExactReal.le_eq_true_iff, hZero, hFar.not_ge, if_false, hInside,
        if_true]
      push_cast
      linarith

/-- Without acceleration every way is beyond the table, so such dashes are no faster either. -/
theorem le_dashCount_mul_of_nonpos (hAcceleration : acceleration type rules ≤ 0) (dist : ℝ)
    (hFits : (ofType type rules).dashCount dist < 4294967296) :
    dist ≤ (ofType type rules).dashCount dist * type.speedMax + (10 ^ 9)⁻¹ := by
  have hZero : (0.0 : ℝ) = 0 := by norm_num
  have hSpeed : 0 ≤ type.speedMax := le_trans (by norm_num) hSpeedMax
  have hTable : ∀ total ∈ (ofType type rules).dashDistances, total ≤ 0 :=
    dashTable_nonpos type.speedMax hAcceleration hDecay tableLength hZero.le hZero.le
  rcases le_or_gt dist (10 ^ 9)⁻¹ with hNear | hFar
  · have hCovered : 0 ≤ (ofType type rules).dashCount dist * type.speedMax :=
      mul_nonneg (Nat.cast_nonneg _) hSpeed
    linarith
  · have hBeyond : (ofType type rules).IsBeyondTable dist := by
      rw [isBeyondTable_iff]
      intro total hMem
      have hNone := hTable total hMem
      linarith
    have hWay := le_dashCount_mul_of_beyond type rules hSpeed (lt_trans (by norm_num) hFar)
      hBeyond hFits
    rw [max_eq_left hSpeedMax] at hWay
    linarith

end TopSpeed

/-- The counts for all distances on and around a pitch are words. -/
theorem dashCount_lt (type : PlayerType ℝ) (rules : Rules ℝ) (hDecay : 0 ≤ type.decay)
    (hAcceleration : 0 ≤ acceleration type rules) (hSpeedMax : 0 ≤ type.speedMax) {dist : ℝ}
    (hDist : dist ≤ 4000) : (ofType type rules).dashCount dist < 4294967296 := by
  have hZero : (0.0 : ℝ) = 0 := by norm_num
  have hLast := last_dashDistances_nonneg type rules hDecay hAcceleration hSpeedMax
  unfold dashCount
  dsimp only
  rw [length_dashDistances_ofType, ExactReal.maximum_eq, hZero]
  split
  · decide
  · split
    · next hInside =>
        unfold tableLength at hInside
        omega
    · have hWay : ((10 ^ 6)⁻¹ : ℝ) ≤ max (ofType type rules).topSpeed 1.0e-6 :=
        le_max_of_le_right (by norm_num)
      generalize max (ofType type rules).topSpeed 1.0e-6 = way at hWay ⊢
      generalize (ofType type rules).dashDistances.getLast?.getD 0 = last at hLast ⊢
      have hShare : (dist - last) / way ≤ 4000000000 := by
        rw [div_le_iff₀ (lt_of_lt_of_le (by norm_num) hWay)]
        linarith
      have hCeiling : Scalar.ceiling ((dist - last) / way) ≤ 4000000000 := by
        show ⌈_⌉ ≤ _
        rw [Int.ceil_le]
        exact_mod_cast hShare
      have hWord := Word.toNat_ofInt_le (Scalar.ceiling ((dist - last) / way))
      unfold tableLength
      omega

end Locomotion
end SoccerWorld
