import Mathlib.Algebra.BigOperators.Group.Finset.Basic
import Mathlib.Algebra.Order.BigOperators.Group.Finset
import Mathlib.Order.Bounds.Basic
import SoccerWorld.Intercept.Search
import SoccerWorld.Proofs.Intercept.TurnOrder

/-!
# When a player stops turning

`Turning.errorAfter` is the heading error after so many turns, of which each slows the body down and
the next one turns by more.  The loop stops at the first number of turns that leaves an error within
the tolerance, or at its limit (`Turning.stopsAt_countFrom`).

Two loops are compared by their errors: where the second one is out of its tolerance whenever the
first one is out of its own, the second one makes no fewer turns (`Turning.StopsAt.le`).  A faster
body turns by less each time, so its error is no smaller after any number of turns
(`Turning.errorAfter_le_errorAfter`).  Main statement: `Reach.countsTurns`.
-/

namespace SoccerWorld
namespace Turning

section Loop

variable (motion : Locomotion ℝ) (moment tolerance : ℝ) (limit : Nat) (error speed : ℝ)

/-- Heading error that is left after `n` turns; each turn slows the body down. -/
noncomputable def errorAfter (n : Nat) : ℝ :=
  error - ∑ turn ∈ Finset.range n,
    motion.effectiveTurn moment (speed * motion.type.decay ^ turn)

/-- The first turn leaves a smaller error and a slower body. -/
theorem errorAfter_succ (n : Nat) :
    errorAfter motion moment error speed (n + 1) =
      errorAfter motion moment (error - motion.effectiveTurn moment speed)
        (speed * motion.type.decay) n := by
  unfold errorAfter
  rw [Finset.sum_range_succ', pow_zero, mul_one, ← sub_sub, sub_right_comm]
  simp only [pow_succ', mul_assoc]

/-- The number `n` is the least that leaves an error within the tolerance, or the limit if no number
below it does. -/
structure IsTurnCount (n : Nat) : Prop where
  le_limit : n ≤ limit
  isLeast : ∀ m < limit, errorAfter motion moment error speed m ≤ tolerance →
    IsLeast {k | errorAfter motion moment error speed k ≤ tolerance} n
  eq_limit : (∀ m < limit, tolerance < errorAfter motion moment error speed m) → n = limit

/-- The error is out of the tolerance before each of `n` turns, and within it after them unless the
limit is reached. -/
structure StopsAt (n : Nat) : Prop where
  le_limit : n ≤ limit
  lt_errorAfter : ∀ m < n, tolerance < errorAfter motion moment error speed m
  errorAfter_le : n < limit → errorAfter motion moment error speed n ≤ tolerance

end Loop

variable {motion : Locomotion ℝ} {moment tolerance : ℝ} {limit : Nat} {error speed : ℝ} {n : Nat}

theorem countFrom_eq_add (made : Nat) :
    countFrom motion moment tolerance limit made error speed =
      made + countFrom motion moment tolerance limit 0 error speed := by
  induction limit generalizing made error speed with
  | zero => rfl
  | succ limit ih =>
      simp only [countFrom]
      split
      · rw [ih, ih (0 + 1)]
        omega
      · rfl

/-- One turn more in front of a loop that stops. -/
theorem StopsAt.turn (hFar : tolerance < error)
    (hStops : StopsAt motion moment tolerance limit (error - motion.effectiveTurn moment speed)
      (speed * motion.type.decay) n) :
    StopsAt motion moment tolerance (limit + 1) error speed (n + 1) where
  le_limit := Nat.succ_le_succ hStops.le_limit
  lt_errorAfter m hm := by
    cases m with
    | zero => simpa [errorAfter] using hFar
    | succ m =>
        rw [errorAfter_succ]
        exact hStops.lt_errorAfter m (by omega)
  errorAfter_le hBelow := by
    rw [errorAfter_succ]
    exact hStops.errorAfter_le (by omega)

theorem stopsAt_countFrom :
    StopsAt motion moment tolerance limit error speed
      (countFrom motion moment tolerance limit 0 error speed) := by
  induction limit generalizing error speed with
  | zero => exact ⟨le_refl 0, by simp [countFrom], by simp⟩
  | succ limit ih =>
      by_cases hFar : tolerance < error
      · rw [countFrom, if_pos ((ExactReal.lt_eq_true_iff _ _).mpr hFar), countFrom_eq_add,
          Nat.add_comm (0 + 1)]
        exact ih.turn hFar
      · rw [countFrom, if_neg (by simpa using hFar)]
        exact ⟨Nat.zero_le _, by simp, fun _ => by simpa [errorAfter] using hFar⟩

theorem StopsAt.isTurnCount (hStops : StopsAt motion moment tolerance limit error speed n) :
    IsTurnCount motion moment tolerance limit error speed n where
  le_limit := hStops.le_limit
  isLeast m hm hEnough := by
    have hLeast : ∀ k, errorAfter motion moment error speed k ≤ tolerance → n ≤ k := by
      intro k hk
      by_contra hBefore
      exact (hStops.lt_errorAfter k (by omega)).not_ge hk
    have hBelow := hLeast m hEnough
    exact ⟨hStops.errorAfter_le (by omega), fun k hk => hLeast k hk⟩
  eq_limit hNone := by
    by_contra hBelow
    have hLess : n < limit := lt_of_le_of_ne hStops.le_limit hBelow
    exact (hNone n hLess).not_ge (hStops.errorAfter_le hLess)

/-- A loop stops no later than another one that is out of its tolerance for as long. -/
theorem StopsAt.le {motion' : Locomotion ℝ} {moment' tolerance' error' speed' : ℝ} {n' : Nat}
    (hStops : StopsAt motion moment tolerance limit error speed n)
    (hStops' : StopsAt motion' moment' tolerance' limit error' speed' n')
    (hFar : ∀ m, tolerance < errorAfter motion moment error speed m →
      tolerance' < errorAfter motion' moment' error' speed' m) : n ≤ n' := by
  by_contra hLess
  rw [not_le] at hLess
  have hFar' := hFar n' (hStops.lt_errorAfter n' hLess)
  exact hFar'.not_ge (hStops'.errorAfter_le (hLess.trans_le hStops.le_limit))

section Speed

variable (hDecay : 0 ≤ motion.type.decay) (hInertia : 0 ≤ motion.type.inertiaMoment)
  (hMoment : 0 ≤ moment) {speed' : ℝ} (hSpeed : 0 ≤ speed) (hFaster : speed ≤ speed')

include hInertia hMoment hSpeed hFaster

/-- A faster body turns by less. -/
theorem effectiveTurn_le_effectiveTurn :
    motion.effectiveTurn moment speed' ≤ motion.effectiveTurn moment speed := by
  have hOne : (1.0 : ℝ) = 1 := by norm_num
  unfold Locomotion.effectiveTurn
  rw [hOne]
  have hSlow : 0 < 1 + motion.type.inertiaMoment * speed := by positivity
  gcongr

include hDecay

/-- A body that is faster at first keeps the larger error. -/
theorem errorAfter_le_errorAfter (n : Nat) :
    errorAfter motion moment error speed n ≤ errorAfter motion moment error speed' n := by
  unfold errorAfter
  refine sub_le_sub_left (Finset.sum_le_sum fun turn _ => ?_) error
  have hPower : 0 ≤ motion.type.decay ^ turn := pow_nonneg hDecay turn
  exact effectiveTurn_le_effectiveTurn hInertia hMoment (mul_nonneg hSpeed hPower)
    (mul_le_mul_of_nonneg_right hFaster hPower)

end Speed

end Turning

namespace Reach

variable (reach : Reach ℝ)

/-- Turns that the player's loop makes for a heading error at an initial speed. -/
noncomputable def turnsWithin (tolerance error speed : ℝ) : Nat :=
  Turning.countFrom reach.motion reach.rules.maxMoment tolerance
    reach.search.maxTurnIterations.toNat 0 error speed

/-- What the player's turns are, and on what they depend in which direction. -/
structure CountsTurns : Prop where
  isTurnCount : ∀ tolerance error speed,
    Turning.IsTurnCount reach.motion reach.rules.maxMoment tolerance
      reach.search.maxTurnIterations.toNat error speed (reach.turnsWithin tolerance error speed)
  /-- No turn is needed under control; elsewhere the loop starts from the folded heading error. -/
  turns_eq : ∀ control way, reach.turns control way =
    if way.norm ≤ control then 0
    else reach.turnsWithin (Turning.tolerance reach.search control way.norm)
      (Turning.headingError reach.search reach.player.body way way.norm) reach.player.velocity.norm
  monotone_error : ∀ tolerance speed,
    Monotone fun error => reach.turnsWithin tolerance error speed
  antitone_tolerance : ∀ error speed,
    Antitone fun tolerance => reach.turnsWithin tolerance error speed
  monotone_speed : 0 ≤ reach.motion.type.decay → 0 ≤ reach.motion.type.inertiaMoment →
    0 ≤ reach.rules.maxMoment → ∀ tolerance error,
      MonotoneOn (fun speed => reach.turnsWithin tolerance error speed) (Set.Ici 0)
  /-- Farther along a bearing, out of control and out of the distance of backward dashes. -/
  monotone_distance : ∀ control, 0 ≤ control → ∀ bearing,
    MonotoneOn (fun distance => reach.turns control (Vec2.polar distance bearing)) (Set.Ici 0)

theorem turns_polar_le_turns_polar {control : ℝ} (hControl : 0 ≤ control) (bearing : Angle ℝ)
    {near far : ℝ} (hNear : 0 ≤ near) (hFar : near ≤ far) :
    reach.turns control (Vec2.polar near bearing) ≤
      reach.turns control (Vec2.polar far bearing) := by
  have hLength := Vec2.norm_polar hNear bearing
  have hLength' := Vec2.norm_polar (hNear.trans hFar) bearing
  refine Turning.count_le_count rfl rfl _ _ hControl (le_refl control) ?_ fun hOutside => ?_
  · rw [hLength, hLength']
    exact hFar
  · -- Out of control the player is not on the ball, so there is a direction to it.
    rw [hLength] at hOutside
    have hApart : 0 < near := hControl.trans_lt hOutside
    rw [Vec2.polar_eq_scale near, Vec2.polar_eq_scale far, Vec2.direction_scale hApart,
      Vec2.direction_scale (hApart.trans_le hFar)]

/-- The player turns until the error is within the tolerance, for no longer than it may.  It turns
more for a larger error, for a smaller tolerance, from a higher speed and towards a farther ball. -/
theorem countsTurns : reach.CountsTurns where
  isTurnCount _ _ _ := Turning.stopsAt_countFrom.isTurnCount
  turns_eq control way := by
    simp only [turns, Turning.count, turnsWithin, ExactReal.le_eq_true_iff]
  monotone_error _ speed _ _ hError :=
    Turning.countFrom_le_countFrom rfl rfl _ (le_refl _) _ 0 hError speed
  antitone_tolerance _ speed _ _ hTolerance :=
    Turning.countFrom_le_countFrom rfl rfl _ hTolerance _ 0 (le_refl _) speed
  monotone_speed hDecay hInertia hMoment _ _ _ hSpeed _ _ hFaster :=
    Turning.stopsAt_countFrom.le Turning.stopsAt_countFrom fun m hFar =>
      hFar.trans_le (Turning.errorAfter_le_errorAfter hDecay hInertia hMoment hSpeed hFaster m)
  monotone_distance _ hControl bearing _ hNear _ _ hFar :=
    reach.turns_polar_le_turns_polar hControl bearing hNear hFar

end Reach
end SoccerWorld
