import Mathlib.Logic.Function.Iterate
import SoccerWorld.Ball.Basic
import SoccerWorld.Proofs.Ball.RollingLine

/-!
# The trajectory of a ball that has rolled on

A trajectory lists the positions of the ball that is propagated cycle by cycle, up to the first
cycle in which one of the limits ends it (`Trajectory.exists_endsAt_compute`).  No rounding enters:
both sides do the same operations in the same order.

The list of a ball that has rolled on for some cycles continues that of the ball as it was.  It may
go on for longer, because the limits count samples from its own beginning, but it cannot end sooner:
what ends a trajectory at a sample would have ended it there under a greater count as well
(`Trajectory.Limits.ending?_eq_none_of_le`).
-/

namespace SoccerWorld

variable {R : Type} [Scalar R]

namespace Ball

/-- The ball after some cycles of rolling unseen. -/
def after (ball : Ball R) (decay : R) (cycles : Nat) : Ball R :=
  (fun ball => ball.propagated decay)^[cycles] ball

theorem after_succ (ball : Ball R) (decay : R) (cycles : Nat) :
    ball.after decay (cycles + 1) = (ball.after decay cycles).propagated decay :=
  Function.iterate_succ_apply' _ cycles ball

theorem after_add (ball : Ball R) (decay : R) (first second : Nat) :
    ball.after decay (first + second) = (ball.after decay first).after decay second := by
  unfold after
  rw [Nat.add_comm, Function.iterate_add_apply]

/-- Every cycle makes the ball one cycle older, as far as a word can count. -/
theorem ages_after (ball : Ball R) (decay : R) (cycles : Nat) :
    (ball.after decay cycles).posAge.toNat = min (ball.posAge.toNat + cycles) 4294967295 ∧
      (ball.after decay cycles).velAge.toNat = min (ball.velAge.toNat + cycles) 4294967295 := by
  induction cycles with
  | zero =>
      have hPos := ball.posAge.toNat_lt
      have hVel := ball.velAge.toNat_lt
      show ball.posAge.toNat = _ ∧ ball.velAge.toNat = _
      omega
  | succ cycles ih =>
      rw [after_succ]
      have hPos := Word.toNat_succ (ball.after decay cycles).posAge
      have hVel := Word.toNat_succ (ball.after decay cycles).velAge
      show (Word.succ _).toNat = _ ∧ (Word.succ _).toNat = _
      omega

/-- The positions of the ball in the coming cycles, starting with the present one. -/
def samples (ball : Ball R) (decay : R) (count : Nat) : List (Vec2 R) :=
  (List.range count).map fun step => (ball.after decay step).position

theorem reverse_samples_succ (ball : Ball R) (decay : R) (count : Nat) :
    (ball.samples decay (count + 1)).reverse =
      (ball.after decay count).position :: (ball.samples decay count).reverse := by
  unfold samples
  rw [List.range_succ, List.map_append, List.map_singleton, List.reverse_append]
  rfl

theorem getElem?_samples_eq_some_iff (ball : Ball R) (decay : R) (count step : Nat)
    (position : Vec2 R) :
    (ball.samples decay count)[step]? = some position ↔
      step < count ∧ (ball.after decay step).position = position := by
  unfold samples
  rw [List.getElem?_map, Option.map_eq_some_iff]
  constructor
  · rintro ⟨index, hIndex, rfl⟩
    obtain ⟨hLess, rfl⟩ := List.getElem?_eq_some_iff.mp hIndex
    rw [List.getElem_range, List.length_range] at *
    exact ⟨hLess, rfl⟩
  · rintro ⟨hLess, rfl⟩
    exact ⟨step, List.getElem?_range hLess, rfl⟩

end Ball

namespace Trajectory

/-- Why the trajectory of a ball ends with the sample after some cycles, if it ends there. -/
def Limits.endingAt? (limits : Limits R) (ball : Ball R) (step : Nat) : Option TrajectoryEnd :=
  limits.ending? (ball.after limits.decay step).position (ball.after limits.decay step).velocity
    (step + 1)

/-- The trajectory lists the positions of a ball up to the first that ends it. -/
structure EndsAt (limits : Limits R) (ball : Ball R) (last : Nat)
    (trajectory : Trajectory R) : Prop where
  positions_eq : trajectory.positions = ball.samples limits.decay (last + 1)
  goes_on : ∀ step < last, limits.endingAt? ball step = none
  ends : limits.endingAt? ball last = some trajectory.ending

/-- Of the samples so far `count` are listed and none has ended the trajectory. -/
theorem exists_follow_samples (limits : Limits R) (ball : Ball R) (budget count : Nat)
    (hBudget : count + budget = limits.maxSteps) (hLeft : 0 < budget) :
    ∃ last, count ≤ last ∧
      (follow limits budget (ball.samples limits.decay count).reverse
        (ball.after limits.decay count).position (ball.after limits.decay count).velocity).1 =
          ball.samples limits.decay (last + 1) ∧
      (∀ step, count ≤ step → step < last → limits.endingAt? ball step = none) ∧
      limits.endingAt? ball last =
        some (follow limits budget (ball.samples limits.decay count).reverse
          (ball.after limits.decay count).position
          (ball.after limits.decay count).velocity).2 := by
  induction budget generalizing count with
  | zero => exact absurd hLeft (Nat.lt_irrefl 0)
  | succ budget ih =>
      have hCount : limits.maxSteps - budget = count + 1 := by omega
      rw [follow, hCount, ← Ball.reverse_samples_succ]
      cases hEnding : limits.ending? (ball.after limits.decay count).position
          (ball.after limits.decay count).velocity (count + 1) with
      | some ending =>
          refine ⟨count, Nat.le_refl count, List.reverse_reverse _, ?_, hEnding⟩
          intro step hFrom hBefore
          omega
      | none =>
          -- The last sample that the limit allows ends the trajectory, so this was not the last.
          have hRest : 0 < budget := by
            by_contra hNone
            exact ending?_ne_none limits _ _ (by omega) hEnding
          obtain ⟨last, hLast, hPositions, hGoesOn, hEnds⟩ := ih (count + 1) (by omega) hRest
          rw [Ball.after_succ] at hPositions hEnds
          refine ⟨last, by omega, hPositions, ?_, hEnds⟩
          intro step hFrom hBefore
          rcases Nat.eq_or_lt_of_le hFrom with rfl | hLater
          · exact hEnding
          · exact hGoesOn step hLater hBefore

theorem exists_endsAt_compute (ball : Ball R) (rules : Rules R) (flight : FlightLimits R) :
    ∃ last, (compute ball.position ball.velocity rules flight).EndsAt
      (Limits.ofConfig rules flight) ball last := by
  have hPositive : 0 < (Limits.ofConfig rules flight).maxSteps :=
    Nat.lt_of_lt_of_le Nat.zero_lt_one (Nat.le_max_right flight.maxSteps 1)
  obtain ⟨last, -, hPositions, hGoesOn, hEnds⟩ := exists_follow_samples
    (Limits.ofConfig rules flight) ball (Limits.ofConfig rules flight).maxSteps 0
    (Nat.zero_add _) hPositive
  exact ⟨last, hPositions, fun step hBefore => hGoesOn step (Nat.zero_le step) hBefore, hEnds⟩

/-! ## Limits and counts -/

namespace Limits

variable {limits : Limits R} {position velocity : Vec2 R}

/-- A ball out of bounds ends a trajectory whatever the count, and nothing else does so. -/
theorem ending?_eq_outOfBounds_iff (count : Nat) :
    limits.ending? position velocity count = some .outOfBounds ↔
      limits.area.contains position = false := by
  unfold ending?
  split
  · next hOut => simpa using hOut
  · next hIn =>
      rw [Bool.not_eq_true, Bool.not_eq_false'] at hIn
      rw [hIn]
      split
      · simp
      · split <;> simp

/-- A ball in bounds is followed up to the least number of samples. -/
theorem ending?_eq_none {count : Nat} (hInside : limits.area.contains position = true)
    (hFew : count < limits.minSteps) (hLeft : count < limits.maxSteps) :
    limits.ending? position velocity count = none := by
  unfold ending?
  rw [hInside, if_neg (by decide), if_neg, if_neg (Nat.not_le.mpr hLeft)]
  rw [Bool.and_eq_true, decide_eq_true_eq]
  exact fun hSlow => Nat.not_le.mpr hFew hSlow.2

/-- What does not end a trajectory would not have ended it with fewer samples. -/
theorem ending?_eq_none_of_le {count other : Nat} (hLess : count ≤ other)
    (hNone : limits.ending? position velocity other = none) :
    limits.ending? position velocity count = none := by
  unfold ending? at hNone ⊢
  split at hNone
  · contradiction
  · next hIn =>
      rw [if_neg hIn]
      split at hNone
      · contradiction
      · next hFast =>
          split at hNone
          · contradiction
          · next hFew =>
              rw [if_neg, if_neg (by omega)]
              intro hSlow
              rw [Bool.and_eq_true, decide_eq_true_eq] at hSlow hFast
              exact hFast ⟨hSlow.1, by omega⟩

/-- The samples of a ball that has rolled on are those of the ball before, under smaller counts. -/
theorem endingAt?_after_eq_none {ball : Ball R} {cycles step : Nat}
    (hNone : limits.endingAt? ball (cycles + step) = none) :
    limits.endingAt? (ball.after limits.decay cycles) step = none := by
  unfold endingAt? at hNone ⊢
  rw [Ball.after_add] at hNone
  exact ending?_eq_none_of_le (by omega) hNone

theorem endingAt?_after_eq_outOfBounds_iff {ball : Ball R} {cycles step : Nat} :
    limits.endingAt? (ball.after limits.decay cycles) step = some .outOfBounds ↔
      limits.endingAt? ball (cycles + step) = some .outOfBounds := by
  unfold endingAt?
  rw [Ball.after_add, ending?_eq_outOfBounds_iff, ending?_eq_outOfBounds_iff]

end Limits

namespace EndsAt

variable {limits : Limits R} {ball : Ball R} {cycles last last' : Nat}
  {trajectory later : Trajectory R}

theorem size_eq (hEnds : trajectory.EndsAt limits ball last) : trajectory.size = last + 1 := by
  rw [size, hEnds.positions_eq, Ball.samples, List.length_map, List.length_range]

theorem positionAt?_eq_some_iff (hEnds : trajectory.EndsAt limits ball last) (step : Nat)
    (position : Vec2 R) :
    trajectory.positionAt? step = some position ↔
      step < trajectory.size ∧ (ball.after limits.decay step).position = position := by
  rw [positionAt?, hEnds.positions_eq, Ball.getElem?_samples_eq_some_iff, hEnds.size_eq]

/-- Where both trajectories have a sample for a cycle, it is the same one. -/
theorem position_eq_of_after (hEnds : trajectory.EndsAt limits ball last)
    (hLater : later.EndsAt limits (ball.after limits.decay cycles) last') {step : Nat}
    {position position' : Vec2 R} (hPosition : later.positionAt? step = some position)
    (hPosition' : trajectory.positionAt? (cycles + step) = some position') :
    position = position' := by
  obtain ⟨-, hSample⟩ := (hLater.positionAt?_eq_some_iff step position).mp hPosition
  obtain ⟨-, hSample'⟩ :=
    (hEnds.positionAt?_eq_some_iff (cycles + step) position').mp hPosition'
  rw [← hSample, ← hSample', Ball.after_add]

/-- A trajectory out of the area is the same trajectory for the ball that has rolled on. -/
theorem outOfBounds_of_after (hEnds : trajectory.EndsAt limits ball last)
    (hLater : later.EndsAt limits (ball.after limits.decay cycles) last')
    (hOut : trajectory.ending = .outOfBounds) (hCycles : cycles < trajectory.size) :
    later.ending = .outOfBounds ∧ later.size = trajectory.size - cycles := by
  rw [hEnds.size_eq] at hCycles
  have hEnd : limits.endingAt? (ball.after limits.decay cycles) (last - cycles) =
      some .outOfBounds := by
    rw [Limits.endingAt?_after_eq_outOfBounds_iff, Nat.add_sub_cancel' (by omega), hEnds.ends,
      hOut]
  have hBefore : ∀ step < last - cycles,
      limits.endingAt? (ball.after limits.decay cycles) step = none := by
    intro step hStep
    exact Limits.endingAt?_after_eq_none (hEnds.goes_on (cycles + step) (by omega))
  -- Both are the first sample with an ending.
  obtain rfl : last' = last - cycles := by
    rcases Nat.lt_trichotomy last' (last - cycles) with hLess | hSame | hGreater
    · have hNone := hBefore last' hLess
      rw [hLater.ends] at hNone
      contradiction
    · exact hSame
    · have hNone := hLater.goes_on (last - cycles) hGreater
      rw [hEnd] at hNone
      contradiction
  have hEnding := hLater.ends
  rw [hEnd] at hEnding
  refine ⟨(Option.some.inj hEnding).symm, ?_⟩
  rw [hLater.size_eq, hEnds.size_eq]
  omega

end EndsAt

end Trajectory

end SoccerWorld
