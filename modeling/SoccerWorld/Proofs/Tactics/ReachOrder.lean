import SoccerWorld.Tactics.ReachOrder

/-!
# Sorting by reach step

The sort only rearranges, and it commutes with every map that keeps the reach steps.  It is stable:
entries with one key stay in the order in which they were listed (`isStableSort_sortByReach`).
-/

namespace SoccerWorld

variable {α β : Type}

theorem sortByReach_perm (step : α → Option UInt32) (xs : List α) :
    (sortByReach step xs).Perm xs :=
  List.mergeSort_perm xs _

/-- Entries that are replaced without a change of their reach steps keep their places. -/
theorem sortByReach_map (step : α → Option UInt32) (step' : β → Option UInt32) (f : α → β)
    (hStep : ∀ x, step' (f x) = step x) (xs : List α) :
    sortByReach step' (xs.map f) = (sortByReach step xs).map f := by
  unfold sortByReach
  refine (List.map_mergeSort ?_).symm
  intro x _ y _
  rw [hStep x, hStep y]

/-- The sorted list has the listed entries with ascending keys, and those with one key in the order
in which they were listed. -/
structure IsStableSort (key : α → UInt32) (listed sorted : List α) : Prop where
  perm : sorted.Perm listed
  ascending : sorted.Pairwise fun a b => key a ≤ key b
  filter_eq : ∀ value, sorted.filter (fun x => key x = value) =
    listed.filter fun x => key x = value

/-- Only the keys of the listed entries matter. -/
theorem IsStableSort.congr {key key' : α → UInt32} {listed sorted : List α}
    (hSort : IsStableSort key listed sorted) (hKey : ∀ x ∈ listed, key x = key' x) :
    IsStableSort key' listed sorted where
  perm := hSort.perm
  ascending := hSort.ascending.imp_of_mem fun {a b} ha hb hLe => by
    rw [← hKey a (hSort.perm.mem_iff.mp ha), ← hKey b (hSort.perm.mem_iff.mp hb)]
    exact hLe
  filter_eq value := by
    have hSorted : sorted.filter (fun x => key' x = value) =
        sorted.filter fun x => key x = value :=
      List.filter_congr fun x hx => by rw [hKey x (hSort.perm.mem_iff.mp hx)]
    have hListed : listed.filter (fun x => key' x = value) =
        listed.filter fun x => key x = value :=
      List.filter_congr fun x hx => by rw [hKey x hx]
    rw [hSorted, hListed, hSort.filter_eq]

namespace IsStableSort

variable {key : α → UInt32} {listed sorted : List α}

/-- A relation that ascending keys ensure, ties at one value apart, holds between the sorted entries
exactly if it holds between the listed ones that are tied there. -/
theorem pairwise_iff (hSort : IsStableSort key listed sorted) (value : UInt32)
    {related : α → α → Prop}
    (hRelated : ∀ a b, key a ≤ key b → (key a = value → key b = value → related a b) →
      related a b) :
    sorted.Pairwise related ↔
      listed.Pairwise fun a b => key a = value → key b = value → related a b := by
  calc sorted.Pairwise related
      ↔ sorted.Pairwise fun a b => key a = value → key b = value → related a b := by
        constructor
        · exact fun hAll => hAll.imp fun h _ _ => h
        · intro hTied
          exact (hSort.ascending.and hTied).imp fun h => hRelated _ _ h.1 h.2
    _ ↔ (sorted.filter fun x => key x = value).Pairwise related := by
        simp only [List.pairwise_filter, decide_eq_true_eq]
    _ ↔ (listed.filter fun x => key x = value).Pairwise related := by rw [hSort.filter_eq]
    _ ↔ listed.Pairwise fun a b => key a = value → key b = value → related a b := by
        simp only [List.pairwise_filter, decide_eq_true_eq]

/-- Entries that are all tied stay as they are listed. -/
theorem eq_of_tied (hSort : IsStableSort key listed sorted) {value : UInt32}
    (hTied : ∀ x ∈ listed, key x = value) : sorted = listed := by
  have hFilter := hSort.filter_eq value
  rw [List.filter_eq_self.mpr, List.filter_eq_self.mpr] at hFilter
  · exact hFilter
  · exact fun x hx => decide_eq_true (hTied x hx)
  · exact fun x hx => decide_eq_true (hTied x (hSort.perm.mem_iff.mp hx))

/-- The first entry has the smallest key. -/
theorem exists_head_le (hSort : IsStableSort key listed sorted) {x : α} (hx : x ∈ listed) :
    ∃ head ∈ sorted.head?, key head ≤ key x := by
  have hMem := hSort.perm.mem_iff.mpr hx
  have hAscending := hSort.ascending
  cases sorted with
  | nil => contradiction
  | cons head rest =>
      refine ⟨head, rfl, ?_⟩
      rcases List.mem_cons.mp hMem with rfl | hRest
      · exact UInt32.le_refl _
      · exact List.rel_of_pairwise_cons hAscending hRest

end IsStableSort

theorem isStableSort_sortByReach (step : α → Option UInt32) (xs : List α) :
    IsStableSort (fun x => reachKey (step x)) xs (sortByReach step xs) := by
  have hPerm := sortByReach_perm step xs
  have hTrans : ∀ a b c : α, decide (reachKey (step a) ≤ reachKey (step b)) = true →
      decide (reachKey (step b) ≤ reachKey (step c)) = true →
        decide (reachKey (step a) ≤ reachKey (step c)) = true := by
    intro a b c hab hbc
    exact decide_eq_true (UInt32.le_trans (of_decide_eq_true hab) (of_decide_eq_true hbc))
  have hTotal : ∀ a b : α, (decide (reachKey (step a) ≤ reachKey (step b)) ||
      decide (reachKey (step b) ≤ reachKey (step a))) = true := by
    intro a b
    rw [Bool.or_eq_true, decide_eq_true_eq, decide_eq_true_eq]
    exact UInt32.le_total _ _
  refine ⟨hPerm, ?_, ?_⟩
  · exact (List.pairwise_mergeSort hTrans hTotal xs).imp of_decide_eq_true
  · intro value
    -- Entries with one key are sorted as they are listed, so the sort keeps them as they are.
    have hTies : (xs.filter fun x => reachKey (step x) = value).Pairwise
        fun a b => decide (reachKey (step a) ≤ reachKey (step b)) = true := by
      refine List.pairwise_of_forall_mem_list fun a ha b hb => decide_eq_true ?_
      rw [of_decide_eq_true (List.mem_filter.mp ha).2, of_decide_eq_true (List.mem_filter.mp hb).2]
      exact UInt32.le_refl value
    have hKept := (List.sublist_mergeSort hTrans hTotal hTies List.filter_sublist).filter
      fun x => decide (reachKey (step x) = value)
    rw [List.filter_filter] at hKept
    simp only [Bool.and_self] at hKept
    exact (hKept.eq_of_length (hPerm.filter _).length_eq.symm).symm

end SoccerWorld
