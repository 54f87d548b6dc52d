import Mathlib.Data.List.Sort
import SoccerWorld.Numeric.Binary64
import SoccerWorld.Proofs.Numeric.ExactReal

/-!
# Sorting by scalars

`Scalar.IsOrdered` says that `Scalar.precedes` is a total order.  It holds of doubles, where the
order is that of the encodings, and of real numbers.

Two facts about the sorts of this library follow from it.  Entries with equal keys keep the order in
which they were listed (`pairwise_mergeSort_stable`), and scalars on their own sort to the same list
however they were listed (`mergeSort_eq_of_perm`).
-/

namespace SoccerWorld

/-- Scalars are sorted by a total order. -/
class Scalar.IsOrdered (R : Type) [Scalar R] : Prop where
  precedes_total : ∀ x y : R, Scalar.precedes x y = true ∨ Scalar.precedes y x = true
  precedes_trans : ∀ x y z : R,
    Scalar.precedes x y = true → Scalar.precedes y z = true → Scalar.precedes x z = true
  precedes_antisymm : ∀ x y : R,
    Scalar.precedes x y = true → Scalar.precedes y x = true → x = y

/-! ## Doubles and real numbers -/

namespace Binary64

theorem toBits_injective : Function.Injective Float.toBits := by
  rintro ⟨⟨bits, hValid⟩⟩ ⟨⟨bits', hValid'⟩⟩ hBits
  obtain rfl : bits = bits' := hBits
  rfl

/-- No two doubles share a place in the order of the encodings. -/
theorem rank_injective : Function.Injective rank := by
  intro x y hRank
  apply toBits_injective
  apply UInt64.toNat.inj
  have hx := x.toBits.toNat_lt
  have hy := y.toBits.toNat_lt
  unfold rank signPlace at hRank
  dsimp only at hRank
  -- Negative encodings have negative places, the others have their own.
  split at hRank <;> split at hRank <;> omega

end Binary64

instance : Scalar.IsOrdered Float where
  precedes_total x y := by
    show decide _ = true ∨ decide _ = true
    rw [decide_eq_true_iff, decide_eq_true_iff]
    exact Int.le_total _ _
  precedes_trans x y z := by
    show decide _ = true → decide _ = true → decide _ = true
    rw [decide_eq_true_iff, decide_eq_true_iff, decide_eq_true_iff]
    exact Int.le_trans
  precedes_antisymm x y := by
    show decide _ = true → decide _ = true → x = y
    rw [decide_eq_true_iff, decide_eq_true_iff]
    intro hxy hyx
    exact Binary64.rank_injective (Int.le_antisymm hxy hyx)

theorem ExactReal.precedes_eq_true_iff (x y : ℝ) : Scalar.precedes x y = true ↔ x ≤ y :=
  decide_eq_true_iff

instance : Scalar.IsOrdered ℝ where
  precedes_total x y := by
    rw [ExactReal.precedes_eq_true_iff, ExactReal.precedes_eq_true_iff]
    exact le_total x y
  precedes_trans x y z := by
    rw [ExactReal.precedes_eq_true_iff, ExactReal.precedes_eq_true_iff,
      ExactReal.precedes_eq_true_iff]
    exact le_trans
  precedes_antisymm x y := by
    rw [ExactReal.precedes_eq_true_iff, ExactReal.precedes_eq_true_iff]
    exact le_antisymm

namespace Scalar

variable {R : Type} [Scalar R] [IsOrdered R]

theorem precedes_or_precedes (x y : R) : (precedes x y || precedes y x) = true := by
  rw [Bool.or_eq_true]
  exact IsOrdered.precedes_total x y

theorem precedes_refl (x : R) : precedes x x = true :=
  (IsOrdered.precedes_total x x).elim id id

theorem precedes_of_not_precedes {x y : R} (hNot : ¬ precedes x y = true) :
    precedes y x = true :=
  (IsOrdered.precedes_total x y).resolve_left hNot

end Scalar

/-! ## Stable sorts -/

section StableSort

variable {α : Type} {le : α → α → Bool}
  (hTrans : ∀ a b c, le a b = true → le b c = true → le a c = true)
  (hTotal : ∀ a b, (le a b || le b a) = true)

include hTrans hTotal

/-- A sorted list is in order, and where a later entry would also do before an earlier one, the two
are in the order in which they were listed. -/
theorem pairwise_mergeSort_stable {listed : α → α → Prop} {xs : List α}
    (hListed : xs.Pairwise listed) :
    (xs.mergeSort le).Pairwise fun a b => le a b = true ∧ (le b a = true → listed a b) := by
  -- Entries are numbered, so that the sort of the numbered entries decides every tie.
  have hSorted : (xs.zipIdx.mergeSort (List.zipIdxLE le)).Pairwise
      fun entry other => List.zipIdxLE le entry other = true :=
    List.pairwise_mergeSort (List.zipIdxLE_trans hTrans) (List.zipIdxLE_total hTotal) xs.zipIdx
  have hNumbers : (xs.zipIdx.mergeSort (List.zipIdxLE le)).Pairwise
      fun entry other => entry.2 ≠ other.2 := by
    have hNodup : ((xs.zipIdx.mergeSort (List.zipIdxLE le)).map Prod.snd).Nodup := by
      rw [((List.mergeSort_perm xs.zipIdx (List.zipIdxLE le)).map Prod.snd).nodup_iff,
        List.zipIdx_map_snd]
      exact List.nodup_range'
    exact List.pairwise_map.mp hNodup
  rw [← List.mergeSort_zipIdx, List.pairwise_map]
  refine (hSorted.and hNumbers).imp_of_mem ?_
  rintro ⟨a, i⟩ ⟨b, j⟩ hMem hMem' ⟨hLe, hDifferent⟩
  rw [List.mem_mergeSort, List.mk_mem_zipIdx_iff_getElem?] at hMem hMem'
  unfold List.zipIdxLE at hLe
  dsimp only at hLe hDifferent ⊢
  have hab : le a b = true := by
    by_contra hNot
    rw [if_neg hNot] at hLe
    contradiction
  refine ⟨hab, ?_⟩
  intro hba
  rw [if_pos hab, if_pos hba, decide_eq_true_iff] at hLe
  obtain ⟨hi, rfl⟩ := List.getElem?_eq_some_iff.mp hMem
  obtain ⟨hj, rfl⟩ := List.getElem?_eq_some_iff.mp hMem'
  exact List.pairwise_iff_getElem.mp hListed i j hi hj (by omega)

/-- A list sorts by a total order to the same list, however it was arranged. -/
theorem mergeSort_eq_of_perm (hAntisymm : ∀ a b, le a b = true → le b a = true → a = b)
    {xs ys : List α} (hPerm : xs.Perm ys) : xs.mergeSort le = ys.mergeSort le := by
  have hSorted := List.pairwise_mergeSort hTrans hTotal xs
  have hSorted' := List.pairwise_mergeSort hTrans hTotal ys
  refine List.Perm.eq_of_pairwise ?_ hSorted hSorted' ?_
  · intro a b _ _ hab hba
    exact hAntisymm a b hab hba
  · exact ((List.mergeSort_perm xs _).trans hPerm).trans (List.mergeSort_perm ys _).symm

end StableSort

end SoccerWorld
