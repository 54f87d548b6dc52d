import SoccerWorld.Proofs.Numeric.FiniteLine
import SoccerWorld.Proofs.Tactics.Offside

/-!
# The second defender

An offside line runs through the defender second from the goal line.  Which defender that is can be
said by counting, without a sort: at most one is beyond it, and it is not alone in being there or
beyond (`Offside.IsSecond`).  `Offside.isLineOf_lineTowardPositive` says that the line is the one
through that defender, or the halfway line.

A position is not beyond the line exactly if it is not beyond the halfway line or two defenders are
there or beyond (`Offside.le_lineTowardPositive_iff`).  So the line follows the defenders when they
move on (`Offside.lineTowardPositive_le_of_replaced`).  The line toward the negative end is the line
toward the positive end after a change of sign (`Offside.same_lineTowardNegative`).
-/

namespace SoccerWorld
namespace Offside

variable {R : Type} [Scalar R]

/-- The positions that count. -/
def counted (defenders : List R) : List R :=
  defenders.filter Scalar.isFinite

/-- A position of the list is second from the top: at most one lies above it, and at least two do
not lie below. -/
structure IsSecond (xs : List R) (x : R) : Prop where
  mem : x ∈ xs
  above_le_one : xs.countP (fun other => Scalar.lt x other) ≤ 1
  two_le_upward : 2 ≤ xs.countP fun other => Scalar.le x other

/-- The line is drawn through the second of the positions that count, but not behind the halfway
line. -/
structure IsLineOf (defenders : List R) (line : R) : Prop where
  /-- Without two positions it is the halfway line. -/
  eq_halfway : (counted defenders).length < 2 → line = halfway
  exists_second : 2 ≤ (counted defenders).length →
    ∃ second, IsSecond (counted defenders) second ∧ line = Scalar.maximum second halfway
  /-- It does not matter which of the positions is called the second one. -/
  same_of_isSecond : ∀ second, IsSecond (counted defenders) second →
    Scalar.same line (Scalar.maximum second halfway) = true
  beyond_le_one : (counted defenders).countP (fun other => Scalar.lt line other) ≤ 1

/-- How the two lines follow from the positions of defenders. -/
structure DrawsLines (defenders : List R) : Prop where
  isLineOf : IsLineOf defenders (lineTowardPositive defenders)
  /-- The line depends on the positions that count only, and not on their order. -/
  eq_of_perm : ∀ others, (counted defenders).Perm (counted others) →
    lineTowardPositive defenders = lineTowardPositive others
  /-- The line is not taken back when a defender moves on. -/
  le_of_replaced : ∀ before x y after, defenders = before ++ x :: after →
    Scalar.isFinite y = true → (Scalar.isFinite x = true → Scalar.le x y = true) →
      Scalar.le (lineTowardPositive defenders) (lineTowardPositive (before ++ y :: after)) = true
  /-- The other line is this one with all signs changed. -/
  mirror : Scalar.same (lineTowardNegative defenders)
    (-(lineTowardPositive (defenders.map fun x => -x))) = true

theorem isFinite_of_mem_counted {defenders : List R} {x : R} (hMem : x ∈ counted defenders) :
    Scalar.isFinite x = true :=
  (List.mem_filter.mp hMem).2

/-- Positions that do not count make no difference. -/
theorem lineTowardPositive_counted (defenders : List R) :
    lineTowardPositive (counted defenders) = lineTowardPositive defenders := by
  unfold lineTowardPositive counted
  rw [List.filter_filter]
  simp

theorem lineTowardPositive_eq_of_perm [Scalar.IsOrdered R] {defenders others : List R}
    (hPerm : (counted defenders).Perm (counted others)) :
    lineTowardPositive defenders = lineTowardPositive others := by
  rw [← lineTowardPositive_counted defenders, lineTowardPositive_perm hPerm,
    lineTowardPositive_counted]

theorem IsSecond.perm {xs ys : List R} {x : R} (hSecond : IsSecond xs x) (hPerm : xs.Perm ys) :
    IsSecond ys x where
  mem := hPerm.mem_iff.mp hSecond.mem
  above_le_one := hPerm.countP_eq _ ▸ hSecond.above_le_one
  two_le_upward := hPerm.countP_eq _ ▸ hSecond.two_le_upward

/-! ## Counting -/

section Counting

variable [Scalar.HasFiniteLine R] {xs : List R} {v w : R}

/-- Of two positions, the one with two upward of it is not above the one with one above it. -/
theorem le_of_counts (hFinite : ∀ x ∈ xs, Scalar.isFinite x = true)
    (hv : Scalar.isFinite v = true) (hw : Scalar.isFinite w = true)
    (hTwo : 2 ≤ xs.countP fun x => Scalar.le v x) (hOne : xs.countP (fun x => Scalar.lt w x) ≤ 1) :
    Scalar.le v w = true := by
  by_contra hNot
  have hLess : Scalar.lt w v = true := (Scalar.HasFiniteLine.lt_iff_not_le w v hw hv).mpr hNot
  -- Everything upward of `v` would be above `w`.
  have hCounts : xs.countP (fun x => Scalar.le v x) ≤ xs.countP fun x => Scalar.lt w x := by
    apply List.countP_mono_left
    intro x hMem hLe
    exact Scalar.lt_of_lt_of_le hw hv (hFinite x hMem) hLess hLe
  omega

/-- Two positions that are both second from the top are on one place. -/
theorem IsSecond.same (hFinite : ∀ x ∈ xs, Scalar.isFinite x = true) (hv : IsSecond xs v)
    (hw : IsSecond xs w) : Scalar.same v w = true := by
  have hvFinite := hFinite v hv.mem
  have hwFinite := hFinite w hw.mem
  rw [Scalar.same, Bool.and_eq_true]
  constructor
  · exact le_of_counts hFinite hvFinite hwFinite hv.two_le_upward hw.above_le_one
  · exact le_of_counts hFinite hwFinite hvFinite hw.two_le_upward hv.above_le_one

/-- Lower positions have no fewer upward of them. -/
theorem countP_le_anti (hFinite : ∀ x ∈ xs, Scalar.isFinite x = true)
    (hv : Scalar.isFinite v = true) (hw : Scalar.isFinite w = true) (hLe : Scalar.le v w = true) :
    (xs.countP fun x => Scalar.le w x) ≤ xs.countP fun x => Scalar.le v x := by
  apply List.countP_mono_left
  intro x hMem hUpward
  exact Scalar.HasFiniteLine.le_trans v w x hv hw (hFinite x hMem) hLe hUpward

theorem countP_lt_anti (hFinite : ∀ x ∈ xs, Scalar.isFinite x = true)
    (hv : Scalar.isFinite v = true) (hw : Scalar.isFinite w = true) (hLe : Scalar.le v w = true) :
    (xs.countP fun x => Scalar.lt w x) ≤ xs.countP fun x => Scalar.lt v x := by
  apply List.countP_mono_left
  intro x hMem hAbove
  exact Scalar.lt_of_le_of_lt hv hw (hFinite x hMem) hLe hAbove

/-- The second entry of a list in descending order is second from the top. -/
theorem isSecond_of_pairwise {first second : R} {rest : List R}
    (hFinite : ∀ x ∈ first :: second :: rest, Scalar.isFinite x = true)
    (hPairwise : (first :: second :: rest).Pairwise fun a b => Scalar.le b a = true) :
    IsSecond (first :: second :: rest) second := by
  rw [List.pairwise_cons, List.pairwise_cons] at hPairwise
  obtain ⟨hFirst, hBelow, -⟩ := hPairwise
  have hSecond : Scalar.isFinite second = true := hFinite second (by simp)
  -- Only the first entry can lie above the second one.
  have hNone : (second :: rest).countP (fun other => Scalar.lt second other) = 0 := by
    rw [List.countP_eq_zero]
    intro x hMem
    have hx : Scalar.isFinite x = true := hFinite x (List.mem_cons_of_mem _ hMem)
    rw [Scalar.HasFiniteLine.lt_iff_not_le second x hSecond hx, not_not]
    rcases List.mem_cons.mp hMem with rfl | hRest
    · exact Scalar.le_self hx
    · exact hBelow x hRest
  refine ⟨by simp, ?_, ?_⟩
  · rw [List.countP_cons, hNone]
    split <;> omega
  · rw [List.countP_cons, if_pos (hFirst second (by simp)), List.countP_cons,
      if_pos (Scalar.le_self hSecond)]
    omega

end Counting

/-! ## The line toward the positive end -/

theorem isFinite_halfway [Scalar.HasDistances R] : Scalar.isFinite (halfway : R) = true :=
  Scalar.HasDistances.isFinite_zero

section Second

variable [Scalar.IsOrdered R] [Scalar.HasFiniteLine R]

/-- Sorted positions are from the top downward. -/
theorem pairwise_le_mergeSort (defenders : List R) :
    ((counted defenders).mergeSort fun a b => Scalar.precedes b a).Pairwise
      fun a b => Scalar.le b a = true := by
  have hSorted := List.pairwise_mergeSort
    (fun a b c hab hbc => Scalar.IsOrdered.precedes_trans (R := R) c b a hbc hab)
    (fun a b => Scalar.precedes_or_precedes b a) (counted defenders)
  refine hSorted.imp_of_mem ?_
  intro a b ha hb hPrecedes
  rw [List.mem_mergeSort] at ha hb
  exact Scalar.HasFiniteLine.le_of_precedes b a (isFinite_of_mem_counted hb)
    (isFinite_of_mem_counted ha) hPrecedes

/-- The line is the halfway line, or it is drawn through the second position. -/
theorem lineTowardPositive_cases (defenders : List R) :
    ((counted defenders).length < 2 ∧ lineTowardPositive defenders = halfway) ∨
      ∃ second, IsSecond (counted defenders) second ∧
        lineTowardPositive defenders = Scalar.maximum second halfway := by
  have hPairwise := pairwise_le_mergeSort defenders
  have hPerm := List.mergeSort_perm (counted defenders) fun a b => Scalar.precedes b a
  unfold lineTowardPositive
  rw [← counted]
  generalize (counted defenders).mergeSort (fun a b => Scalar.precedes b a) = sorted
    at hPairwise hPerm ⊢
  rcases sorted with _ | ⟨first, _ | ⟨second, rest⟩⟩
  · exact Or.inl ⟨hPerm.length_eq.symm.trans_lt Nat.zero_lt_two, rfl⟩
  · exact Or.inl ⟨hPerm.length_eq.symm.trans_lt Nat.one_lt_two, rfl⟩
  · right
    refine ⟨second, (isSecond_of_pairwise ?_ hPairwise).perm hPerm, rfl⟩
    intro x hMem
    exact isFinite_of_mem_counted (hPerm.mem_iff.mp hMem)

end Second

section Line

variable [Scalar.IsOrdered R] [Scalar.HasDistances R] [Scalar.HasFiniteLine R]
  {defenders others : List R} {v : R}

/-- The line is never behind the halfway line. -/
theorem halfway_le_lineTowardPositive (defenders : List R) :
    Scalar.le halfway (lineTowardPositive defenders) = true := by
  rcases lineTowardPositive_cases defenders with ⟨-, hLine⟩ | ⟨second, hSecond, hLine⟩
  · rw [hLine]
    exact Scalar.le_self isFinite_halfway
  · rw [hLine]
    exact Scalar.le_maximum_right (isFinite_of_mem_counted hSecond.mem) isFinite_halfway

/-- At most one position is beyond the line. -/
theorem beyond_lineTowardPositive (defenders : List R) :
    (counted defenders).countP
      (fun other => Scalar.lt (lineTowardPositive defenders) other) ≤ 1 := by
  rcases lineTowardPositive_cases defenders with ⟨hFew, -⟩ | ⟨second, hSecond, hLine⟩
  · have hAll := List.countP_le_length (l := counted defenders)
      (p := fun other => Scalar.lt (lineTowardPositive defenders) other)
    omega
  · have hFinite : Scalar.isFinite second = true := isFinite_of_mem_counted hSecond.mem
    have hAbove : Scalar.le second (lineTowardPositive defenders) = true := by
      rw [hLine]
      exact Scalar.le_maximum_left hFinite isFinite_halfway
    exact (countP_lt_anti (fun x hMem => isFinite_of_mem_counted hMem) hFinite
      (isFinite_lineTowardPositive defenders) hAbove).trans hSecond.above_le_one

/-- A position is not beyond the line exactly if it is not beyond the halfway line or two are upward
of it. -/
theorem le_lineTowardPositive_iff (hv : Scalar.isFinite v = true) :
    Scalar.le v (lineTowardPositive defenders) = true ↔
      Scalar.le v halfway = true ∨ 2 ≤ (counted defenders).countP fun x => Scalar.le v x := by
  have hLine := isFinite_lineTowardPositive defenders
  have hCounted : ∀ x ∈ counted defenders, Scalar.isFinite x = true :=
    fun x hMem => isFinite_of_mem_counted hMem
  constructor
  · intro hLe
    rcases lineTowardPositive_cases defenders with ⟨-, hHalfway⟩ | ⟨second, hSecond, hMaximum⟩
    · rw [hHalfway] at hLe
      exact Or.inl hLe
    · have hFinite : Scalar.isFinite second = true := isFinite_of_mem_counted hSecond.mem
      rw [hMaximum, Scalar.maximum_of_isFinite hFinite] at hLe
      split at hLe
      · exact Or.inl hLe
      · exact Or.inr (hSecond.two_le_upward.trans (countP_le_anti hCounted hv hFinite hLe))
  · rintro (hBehind | hTwo)
    · exact Scalar.HasFiniteLine.le_trans v halfway _ hv isFinite_halfway hLine hBehind
        (halfway_le_lineTowardPositive defenders)
    · exact le_of_counts hCounted hv hLine hTwo (beyond_lineTowardPositive defenders)

/-- The line follows when no position has fewer upward of it. -/
theorem lineTowardPositive_le_of_counts
    (hCounts : ∀ v, Scalar.isFinite v = true → (counted defenders).countP (Scalar.le v) ≤
      (counted others).countP (Scalar.le v)) :
    Scalar.le (lineTowardPositive defenders) (lineTowardPositive others) = true := by
  have hLine := isFinite_lineTowardPositive defenders
  rw [le_lineTowardPositive_iff hLine]
  exact ((le_lineTowardPositive_iff hLine).mp (Scalar.le_self hLine)).imp_right
    fun hTwo => hTwo.trans (hCounts _ hLine)

/-- The line is not taken back when a defender moves on. -/
theorem lineTowardPositive_le_of_replaced (before after : List R) {x y : R}
    (hy : Scalar.isFinite y = true)
    (hOn : Scalar.isFinite x = true → Scalar.le x y = true) :
    Scalar.le (lineTowardPositive (before ++ x :: after))
      (lineTowardPositive (before ++ y :: after)) = true := by
  apply lineTowardPositive_le_of_counts
  intro v hv
  have hHere : (Scalar.le v x && Scalar.isFinite x) = true →
      (Scalar.le v y && Scalar.isFinite y) = true := by
    rw [Bool.and_eq_true, Bool.and_eq_true]
    rintro ⟨hLe, hx⟩
    exact ⟨Scalar.HasFiniteLine.le_trans v x y hv hx hy hLe (hOn hx), hy⟩
  unfold counted
  rw [List.countP_filter, List.countP_filter, List.countP_append, List.countP_append,
    List.countP_cons, List.countP_cons]
  split
  · next hUpward => rw [if_pos (hHere hUpward)]
  · omega

theorem isLineOf_lineTowardPositive (defenders : List R) :
    IsLineOf defenders (lineTowardPositive defenders) := by
  have hBeyond := beyond_lineTowardPositive defenders
  have hCounted : ∀ x ∈ counted defenders, Scalar.isFinite x = true :=
    fun x hMem => isFinite_of_mem_counted hMem
  have hEnough : ∀ {second}, IsSecond (counted defenders) second →
      2 ≤ (counted defenders).length :=
    fun hSecond => hSecond.two_le_upward.trans List.countP_le_length
  rcases lineTowardPositive_cases defenders with ⟨hFew, hHalfway⟩ | ⟨second, hSecond, hLine⟩
  · refine ⟨fun _ => hHalfway, ?_, ?_, hBeyond⟩
    · intro hTwo
      omega
    · intro other hOther
      have hTwo := hEnough hOther
      omega
  · have hTwo := hEnough hSecond
    refine ⟨?_, fun _ => ⟨second, hSecond, hLine⟩, ?_, hBeyond⟩
    · intro hFew
      omega
    · intro other hOther
      rw [hLine]
      exact Scalar.same_maximum_maximum (hCounted second hSecond.mem) isFinite_halfway
        (hCounted other hOther.mem) isFinite_halfway (hSecond.same hCounted hOther)
        (Scalar.same_self isFinite_halfway)

end Line

/-! ## The line toward the negative end -/

section Mirror

variable [Scalar.HasFiniteLine R]

/-- The positions that count, all signs changed, sort to the opposite order. -/
theorem mergeSort_map_neg (defenders : List R) :
    (counted (defenders.map fun x => -x)).mergeSort (fun a b => Scalar.precedes b a) =
      ((counted defenders).mergeSort Scalar.precedes).map fun x => -x := by
  have hCounted : counted (defenders.map fun x => -x) = (counted defenders).map fun x => -x := by
    unfold counted
    rw [List.filter_map]
    congr 2
    funext x
    exact Scalar.HasFiniteLine.isFinite_neg x
  rw [hCounted]
  refine (List.map_mergeSort ?_).symm
  intro a ha b hb
  exact (Scalar.HasFiniteLine.precedes_neg_neg b a (isFinite_of_mem_counted hb)
    (isFinite_of_mem_counted ha)).symm

variable [Scalar.HasDistances R]

/-- The line toward the negative end is never behind the halfway line. -/
theorem lineTowardNegative_le_halfway (defenders : List R) :
    Scalar.le (lineTowardNegative defenders) halfway = true := by
  unfold lineTowardNegative
  split
  · next first second rest hSorted =>
      exact Scalar.minimum_le_right (isFinite_second defenders hSorted) isFinite_halfway
  · exact Scalar.le_self isFinite_halfway

variable [Scalar.IsSigned R]

/-- The smaller of a position and the halfway line, by the larger one after a change of sign. -/
theorem same_minimum_halfway {x : R} (hx : Scalar.isFinite x = true) :
    Scalar.same (Scalar.minimum x halfway) (-(Scalar.maximum (-x) halfway)) = true := by
  have hx' : Scalar.isFinite (-x) = true := (Scalar.HasFiniteLine.isFinite_neg x).trans hx
  have hHalfway := isFinite_halfway (R := R)
  have hHalfway' : Scalar.isFinite (-(halfway : R)) = true :=
    (Scalar.HasFiniteLine.isFinite_neg _).trans hHalfway
  rw [Scalar.minimum_eq_neg_maximum hx hHalfway,
    Scalar.same_neg_neg (Scalar.isFinite_maximum hx' hHalfway')
      (Scalar.isFinite_maximum hx' hHalfway)]
  exact Scalar.same_maximum_maximum hx' hHalfway' hx' hHalfway (Scalar.same_self hx')
    Scalar.same_neg_zero

/-- The line toward the negative end is the other line after a change of sign. -/
theorem same_lineTowardNegative (defenders : List R) :
    Scalar.same (lineTowardNegative defenders)
      (-(lineTowardPositive (defenders.map fun x => -x))) = true := by
  have hFinite : ∀ x ∈ (counted defenders).mergeSort Scalar.precedes,
      Scalar.isFinite x = true := by
    intro x hMem
    exact isFinite_of_mem_counted (List.mem_mergeSort.mp hMem)
  have hHalfway : Scalar.same halfway (-(halfway : R)) = true := by
    rw [Scalar.same, Bool.and_comm]
    exact Scalar.same_neg_zero
  -- The second entries correspond, because a change of sign only turns the sorted list round.
  unfold lineTowardNegative lineTowardPositive
  rw [← counted, ← counted, mergeSort_map_neg]
  generalize (counted defenders).mergeSort Scalar.precedes = sorted at hFinite ⊢
  rcases sorted with _ | ⟨first, _ | ⟨second, rest⟩⟩
  · exact hHalfway
  · exact hHalfway
  · exact same_minimum_halfway (hFinite second (by simp))

theorem drawsLines [Scalar.IsOrdered R] (defenders : List R) : DrawsLines defenders where
  isLineOf := isLineOf_lineTowardPositive defenders
  eq_of_perm _ hPerm := lineTowardPositive_eq_of_perm hPerm
  le_of_replaced before x y after hDefenders hy hOn := by
    rw [hDefenders]
    exact lineTowardPositive_le_of_replaced before after hy hOn
  mirror := same_lineTowardNegative defenders

end Mirror

end Offside
end SoccerWorld
