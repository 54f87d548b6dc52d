import SoccerWorld.Numeric.Binary64
import SoccerWorld.Proofs.Tactics.ReachOrder
import SoccerWorld.Snapshot.Build

/-!
# Where players without a reach step are sorted

The order puts a player without a reach step where the largest step goes.  So such a player comes
after every player with a smaller step, but it is tied with a player whose predicted step is cut off
at the largest word, and a tie is left as it was listed.

Main statement: the players that were evaluated come first exactly if no other player is listed
before one with the largest step, and the fastest player is missing exactly if a player that was not
evaluated is listed first and no evaluated player has a smaller step than the largest
(`Observer.isOrderedByStep_sortByReach`).
-/

namespace SoccerWorld

variable {α : Type}

/-- Every entry with a step comes before every entry without one. -/
def EvaluatedFirst (step : α → Option UInt32) (xs : List α) : Prop :=
  xs.Pairwise fun a b => (step b).isSome = true → (step a).isSome = true

/-- No entry has a smaller step than the largest. -/
def AllSaturated (step : α → Option UInt32) (xs : List α) : Prop :=
  ∀ x ∈ xs, ∀ value ∈ step x, value = 4294967295

/-- The sorted list has the listed entries, those with a step in ascending order, and those with one
step, or without any, in the order in which they were listed. -/
structure IsOrderedByStep (step : α → Option UInt32) (listed sorted : List α) : Prop where
  perm : sorted.Perm listed
  ascending : sorted.Pairwise fun a b => ∀ first ∈ step a, ∀ second ∈ step b, first ≤ second
  filter_eq : ∀ option, sorted.filter (fun x => step x = option) =
    listed.filter fun x => step x = option
  /-- After an entry without a step there are only such entries and entries with the largest. -/
  saturated : sorted.Pairwise fun a b => step a = none → ∀ value ∈ step b, value = 4294967295
  evaluatedFirst_iff : EvaluatedFirst step sorted ↔
    listed.Pairwise fun a b => step b = some 4294967295 → (step a).isSome = true
  head?_unevaluated_iff : (∀ head ∈ sorted.head?, step head = none) ↔
    (∀ head ∈ listed.head?, step head = none) ∧ AllSaturated step listed

theorem reachKey_of_eq_none {option : Option UInt32} (hNone : option = none) :
    reachKey option = 4294967295 := by
  rw [hNone]
  rfl

theorem reachKey_of_mem {option : Option UInt32} {value : UInt32} (hValue : value ∈ option) :
    reachKey option = value := by
  rw [Option.mem_def.mp hValue]
  rfl

/-- No key is larger than that of an entry without a step. -/
theorem eq_largest_of_le {value : UInt32} (hLarge : 4294967295 ≤ value) : value = 4294967295 := by
  have hWord := value.toNat_lt
  rw [UInt32.le_iff_toNat_le] at hLarge
  have hLargest : (4294967295 : UInt32).toNat = 4294967295 := rfl
  rw [← UInt32.toNat_inj]
  omega

theorem allSaturated_iff {step : α → Option UInt32} {xs : List α} :
    AllSaturated step xs ↔ ∀ x ∈ xs, reachKey (step x) = 4294967295 := by
  refine forall₂_congr fun x _ => ?_
  cases step x with
  | none => simp [reachKey]
  | some value => simp [reachKey]

namespace IsStableSort

variable {step : α → Option UInt32} {listed sorted : List α}

/-- With the keys of the reach steps, entries without a step are tied with those at the largest. -/
theorem isOrderedByStep (hSort : IsStableSort (fun x => reachKey (step x)) listed sorted) :
    IsOrderedByStep step listed sorted where
  perm := hSort.perm
  ascending := by
    refine hSort.ascending.imp fun {a b} hLe => ?_
    intro first hFirst second hSecond
    rw [← reachKey_of_mem hFirst, ← reachKey_of_mem hSecond]
    exact hLe
  filter_eq option := by
    -- Entries with one option are among those with its key.
    have hKey := congrArg (List.filter fun x => step x = option) (hSort.filter_eq (reachKey option))
    rw [List.filter_filter, List.filter_filter] at hKey
    have hSame : (fun x => decide (step x = option) &&
        decide (reachKey (step x) = reachKey option)) = fun x => decide (step x = option) := by
      funext x
      by_cases hOption : step x = option <;> simp [hOption]
    rw [hSame] at hKey
    exact hKey
  saturated := by
    refine hSort.ascending.imp fun {a b} hLe => ?_
    intro hNone value hValue
    rw [reachKey_of_eq_none hNone, reachKey_of_mem hValue] at hLe
    exact eq_largest_of_le hLe
  evaluatedFirst_iff := by
    unfold EvaluatedFirst
    rw [hSort.pairwise_iff 4294967295]
    · refine List.Pairwise.iff fun a b => ?_
      cases step a <;> cases step b <;> simp [reachKey]
    · intro a b hLe hTied hEvaluated
      cases hStep : step a with
      | some value => rfl
      | none =>
          have hKey := reachKey_of_eq_none hStep
          rw [hKey] at hLe
          rw [← hStep]
          exact hTied hKey (eq_largest_of_le hLe) hEvaluated
  head?_unevaluated_iff := by
    rw [allSaturated_iff]
    constructor
    · intro hHead
      have hTied : ∀ x ∈ listed, reachKey (step x) = 4294967295 := by
        intro x hx
        obtain ⟨head, hFirst, hLe⟩ := hSort.exists_head_le hx
        rw [reachKey_of_eq_none (hHead head hFirst)] at hLe
        exact eq_largest_of_le hLe
      rw [hSort.eq_of_tied hTied] at hHead
      exact ⟨hHead, hTied⟩
    · rintro ⟨hHead, hTied⟩
      rw [hSort.eq_of_tied hTied]
      exact hHead

end IsStableSort

namespace Observer

variable {R : Type} [Scalar R]

/-- The first player of a list is the fastest one, unless it was not evaluated. -/
theorem firstEvaluated_zero_eq_none_iff (players : List (Player R)) :
    firstEvaluated players [0] = none ↔ ∀ head ∈ players.head?, head.reachStep = none := by
  cases players with
  | nil => simp [firstEvaluated]
  | cons head rest => simp [firstEvaluated]

/-- Sorting by reach step puts players that were not evaluated last, ties with the largest step
apart; and these ties are all that leaves evaluated players without a fastest one. -/
theorem isOrderedByStep_sortByReach :
    (∀ (α : Type) (step : α → Option UInt32) (listed : List α),
        IsOrderedByStep step listed (sortByReach step listed)) ∧
      ∀ players : List (Player R),
        firstEvaluated (sortByReach Player.reachStep players) [0] = none ↔
          (∀ head ∈ players.head?, head.reachStep = none) ∧
            AllSaturated Player.reachStep players := by
  have hOrdered : ∀ (α : Type) (step : α → Option UInt32) (listed : List α),
      IsOrderedByStep step listed (sortByReach step listed) :=
    fun _ step listed => (isStableSort_sortByReach step listed).isOrderedByStep
  refine ⟨hOrdered, fun players => ?_⟩
  rw [firstEvaluated_zero_eq_none_iff]
  exact (hOrdered _ Player.reachStep players).head?_unevaluated_iff

/-- A player that was not evaluated, and one whose step is the largest. -/
def tiedPlayers : List (Player Float) :=
  let player := Player.blank Side.left none Vec2.zero
  [player, { player with reachStep := some 4294967295 }]

theorem not_evaluatedFirst_sortByReach_tiedPlayers :
    tiedPlayers.map Player.reachStep = [none, some 4294967295] ∧
      ¬ EvaluatedFirst Player.reachStep (sortByReach Player.reachStep tiedPlayers) ∧
      firstEvaluated (sortByReach Player.reachStep tiedPlayers) [0] = none := by
  have hSorted : sortByReach Player.reachStep tiedPlayers = tiedPlayers :=
    List.mergeSort_of_pairwise (by decide)
  rw [hSorted]
  refine ⟨rfl, ?_, rfl⟩
  unfold EvaluatedFirst
  decide

end Observer

end SoccerWorld
