import SoccerWorld.Config.Basic
import SoccerWorld.Numeric.Binary64
import SoccerWorld.Proofs.Ball.Continuation

/-!
# The shape of a trajectory

Three conditions end a trajectory: the ball is out of bounds, it is slow after enough samples, or
there are as many samples as allowed.  They are tested in this order, so each ending stands for its
own condition and for the failure of those before it (`Trajectory.Limits.ending?_eq_stopped_iff`
and its siblings).  Of a configuration that is usable, the least number of samples is within the
greatest one.

Main statement: where memory for it can be allocated, the trajectory of a ball has the shape
`Trajectory.HasShape`.  It lists how the ball rolls under friction, its ending says which condition
the last sample meets, and no sample before the last one meets any (`Trajectory.hasShape_compute`).
-/

namespace SoccerWorld

variable {R : Type} [Scalar R]

/-- The velocity after some cycles, each of which leaves a share of it. -/
def Vec2.slowed (velocity : Vec2 R) (decay : R) (cycles : Nat) : Vec2 R :=
  (fun velocity => velocity.scale decay)^[cycles] velocity

theorem Ball.velocity_after (ball : Ball R) (decay : R) (cycles : Nat) :
    (ball.after decay cycles).velocity = ball.velocity.slowed decay cycles := by
  induction cycles with
  | zero => rfl
  | succ cycles ih =>
      rw [after_succ, Vec2.slowed, Function.iterate_succ_apply', ← Vec2.slowed, ← ih]
      rfl

/-- In a usable configuration the least number of samples is within the greatest one. -/
theorem WorldConfig.minSteps_le_maxSteps {config : WorldConfig R} (hUsable : config.fault? = none) :
    config.flight.minSteps ≤ config.flight.maxSteps := by
  unfold fault? at hUsable
  split at hUsable
  · contradiction
  · split at hUsable
    · contradiction
    · split at hUsable
      · contradiction
      · omega

namespace Trajectory

/-! ## Each ending stands for its condition -/

namespace Limits

variable {limits : Limits R} {position velocity : Vec2 R}

theorem ending?_eq_none_iff (count : Nat) :
    limits.ending? position velocity count = none ↔
      limits.area.contains position = true ∧
        ¬ (Scalar.lt velocity.norm limits.stopSpeed = true ∧ limits.minSteps ≤ count) ∧
          count < limits.maxSteps := by
  unfold ending?
  split
  · simp_all
  · split <;> simp_all

theorem ending?_eq_stopped_iff (count : Nat) :
    limits.ending? position velocity count = some .stopped ↔
      limits.area.contains position = true ∧
        Scalar.lt velocity.norm limits.stopSpeed = true ∧ limits.minSteps ≤ count := by
  unfold ending?
  split
  · simp_all
  · split <;> simp_all

theorem ending?_eq_stepLimit_iff (count : Nat) :
    limits.ending? position velocity count = some .stepLimit ↔
      limits.area.contains position = true ∧ limits.maxSteps ≤ count ∧
        ¬ (Scalar.lt velocity.norm limits.stopSpeed = true ∧ limits.minSteps ≤ count) := by
  unfold ending?
  split
  · simp_all
  · split
    · simp_all
    · split <;> simp_all

end Limits

/-! ## The shape -/

/-- A ball with this velocity counts as stopped at its `count`-th sample.  No more samples are
awaited than are allowed. -/
def IsStoppedAt (flight : FlightLimits R) (velocity : Vec2 R) (count : Nat) : Prop :=
  Scalar.lt velocity.norm flight.stopSpeed = true ∧
    min flight.minSteps (max flight.maxSteps 1) ≤ count

/-- How a ball rolls from `position` with `velocity`, followed up to the first sample that ends the
trajectory. -/
structure HasShape (rules : Rules R) (flight : FlightLimits R) (position velocity : Vec2 R)
    (trajectory : Trajectory R) : Prop where
  size_pos : 0 < trajectory.size
  size_le : trajectory.size ≤ max flight.maxSteps 1
  first : trajectory.positionAt? 0 = some position
  /-- In each cycle the ball moves by its velocity, of which friction left a share per cycle. -/
  next : ∀ step here there, trajectory.positionAt? step = some here →
    trajectory.positionAt? (step + 1) = some there →
      there = here + velocity.slowed rules.ballDecay step
  outOfBounds_iff : trajectory.ending = .outOfBounds ↔
    (flight.area.rectangle rules.pitch).contains trajectory.last = false
  stopped_iff : trajectory.ending = .stopped ↔
    (flight.area.rectangle rules.pitch).contains trajectory.last = true ∧
      IsStoppedAt flight (velocity.slowed rules.ballDecay (trajectory.size - 1)) trajectory.size
  stepLimit_iff : trajectory.ending = .stepLimit ↔
    (flight.area.rectangle rules.pitch).contains trajectory.last = true ∧
      trajectory.size = max flight.maxSteps 1 ∧
        ¬ IsStoppedAt flight (velocity.slowed rules.ballDecay (trajectory.size - 1))
          trajectory.size
  /-- No sample before the last one meets any of the three conditions. -/
  goes_on : ∀ step here, step + 1 < trajectory.size → trajectory.positionAt? step = some here →
    (flight.area.rectangle rules.pitch).contains here = true ∧
      ¬ IsStoppedAt flight (velocity.slowed rules.ballDecay step) (step + 1) ∧
        step + 1 < max flight.maxSteps 1

/-- The last position is the one after all others. -/
theorem last_eq_of_positionAt? {trajectory : Trajectory R} {step : Nat} {here : Vec2 R}
    (hHere : trajectory.positionAt? step = some here) (hLast : step + 1 = trajectory.size) :
    trajectory.last = here := by
  rw [positionAt?] at hHere
  rw [size] at hLast
  rw [last, List.getLast?_eq_getElem?, ← hLast, Nat.add_sub_cancel, hHere, Option.getD_some]

namespace EndsAt

variable {limits : Limits R} {ball : Ball R} {last : Nat} {trajectory : Trajectory R}

theorem last_eq (hEnds : trajectory.EndsAt limits ball last) :
    trajectory.last = (ball.after limits.decay last).position := by
  have hSize := hEnds.size_eq
  exact last_eq_of_positionAt?
    ((hEnds.positionAt?_eq_some_iff last _).mpr ⟨by omega, rfl⟩) hSize.symm

/-- The sample before the last one did not fill the list. -/
theorem size_le_maxSteps (hEnds : trajectory.EndsAt limits ball last)
    (hPositive : 0 < limits.maxSteps) : trajectory.size ≤ limits.maxSteps := by
  rw [hEnds.size_eq]
  cases last with
  | zero => omega
  | succ step =>
      have hBefore := (Limits.ending?_eq_none_iff _).mp (hEnds.goes_on step (Nat.lt_succ_self step))
      omega

end EndsAt

theorem EndsAt.hasShape {rules : Rules R} {flight : FlightLimits R} {ball : Ball R} {last : Nat}
    {trajectory : Trajectory R}
    (hEnds : trajectory.EndsAt (Limits.ofConfig rules flight) ball last) :
    trajectory.HasShape rules flight ball.position ball.velocity := by
  have hSize := hEnds.size_eq
  have hMost := hEnds.size_le_maxSteps (Nat.lt_of_lt_of_le Nat.zero_lt_one (Nat.le_max_right _ 1))
  have hEnding := hEnds.ends
  have hSpeed := ball.velocity_after rules.ballDecay last
  have hBefore : trajectory.size - 1 = last := by omega
  unfold Limits.endingAt? at hEnding
  rw [← hEnds.last_eq, ← hSize] at hEnding
  refine ⟨by omega, hMost, ?_, ?_, ?_, ?_, ?_, ?_⟩
  · exact (hEnds.positionAt?_eq_some_iff 0 _).mpr ⟨by omega, rfl⟩
  · intro step here there hHere hThere
    obtain ⟨-, rfl⟩ := (hEnds.positionAt?_eq_some_iff step here).mp hHere
    obtain ⟨-, rfl⟩ := (hEnds.positionAt?_eq_some_iff (step + 1) there).mp hThere
    rw [Ball.after_succ, ← Ball.velocity_after]
    rfl
  · rw [← Option.some_inj, ← hEnding, Limits.ending?_eq_outOfBounds_iff]
    rfl
  · rw [← Option.some_inj, ← hEnding, Limits.ending?_eq_stopped_iff, hBefore, ← hSpeed]
    rfl
  · rw [← Option.some_inj, ← hEnding, Limits.ending?_eq_stepLimit_iff, hBefore, ← hSpeed]
    refine and_congr_right fun _ => and_congr_left fun _ => ?_
    exact ⟨hMost.antisymm, fun hFull => hFull.ge⟩
  · intro step here hStep hHere
    obtain ⟨-, rfl⟩ := (hEnds.positionAt?_eq_some_iff step here).mp hHere
    rw [← Ball.velocity_after]
    exact (Limits.ending?_eq_none_iff _).mp (hEnds.goes_on step (by omega))

/-- What is computed has the shape. -/
theorem compute_hasShape (position velocity : Vec2 R) (rules : Rules R) (flight : FlightLimits R) :
    (compute position velocity rules flight).HasShape rules flight position velocity := by
  obtain ⟨last, hEnds⟩ := exists_endsAt_compute (Ball.observed ⟨position, velocity⟩) rules flight
  exact hEnds.hasShape

/-- Where the last sample is in bounds, a trajectory has as many samples as a usable configuration
asks for. -/
theorem HasShape.minSteps_le_size {rules : Rules R} {flight : FlightLimits R}
    {position velocity : Vec2 R} {trajectory : Trajectory R}
    (hShape : trajectory.HasShape rules flight position velocity)
    (hLimits : flight.minSteps ≤ flight.maxSteps)
    (hInside : (flight.area.rectangle rules.pitch).contains trajectory.last = true) :
    flight.minSteps ≤ trajectory.size := by
  cases hEnding : trajectory.ending with
  | outOfBounds =>
      rw [hShape.outOfBounds_iff.mp hEnding] at hInside
      contradiction
  | stopped =>
      obtain ⟨-, -, hEnough⟩ := hShape.stopped_iff.mp hEnding
      omega
  | stepLimit =>
      obtain ⟨-, hFull, -⟩ := hShape.stepLimit_iff.mp hEnding
      omega

/-- The only sample out of bounds is the last one of a trajectory that ends there. -/
theorem HasShape.contains_eq_false_iff {rules : Rules R} {flight : FlightLimits R}
    {position velocity : Vec2 R} {trajectory : Trajectory R}
    (hShape : trajectory.HasShape rules flight position velocity)
    (hOut : trajectory.ending = .outOfBounds) {step : Nat} {here : Vec2 R}
    (hHere : trajectory.positionAt? step = some here) :
    (flight.area.rectangle rules.pitch).contains here = false ↔ step + 1 = trajectory.size := by
  constructor
  · intro hOutside
    obtain ⟨hStep, -⟩ := List.getElem?_eq_some_iff.mp hHere
    by_contra hEarlier
    have hInside := (hShape.goes_on step here (by rw [size] at hEarlier ⊢; omega) hHere).1
    rw [hOutside] at hInside
    contradiction
  · intro hLast
    rw [← last_eq_of_positionAt? hHere hLast]
    exact hShape.outOfBounds_iff.mp hOut

/-! ## Where memory can be allocated -/

/-- A trajectory is computed exactly if memory for as many samples as are allowed can be
allocated. -/
theorem compute?_eq_some_iff (position velocity : Vec2 R) (rules : Rules R)
    (flight : FlightLimits R) (trajectory : Trajectory R) :
    compute? position velocity rules flight = some trajectory ↔
      IsAllocatable flight ∧ compute position velocity rules flight = trajectory := by
  unfold compute?
  split
  · next hMemory => rw [Option.some_inj, and_iff_right hMemory]
  · next hNone => simp [hNone]

/-- A ball is followed exactly if memory for as many samples as are allowed can be allocated.  Every
trajectory is cut at the first sample that meets one of the conditions, and its ending is the
condition.  In a usable configuration a ball that stays in bounds is followed for the least number
of samples, and one that leaves them up to the first sample outside. -/
theorem hasShape_compute (config : WorldConfig R) (position velocity : Vec2 R) :
    ((∃ trajectory, compute? position velocity config.rules config.flight = some trajectory) ↔
        IsAllocatable config.flight) ∧
      ∀ trajectory, compute? position velocity config.rules config.flight = some trajectory →
        trajectory.HasShape config.rules config.flight position velocity ∧
          (config.fault? = none →
            (config.flight.area.rectangle config.rules.pitch).contains trajectory.last = true →
              config.flight.minSteps ≤ trajectory.size) ∧
          (trajectory.ending = .outOfBounds →
            ∀ step here, trajectory.positionAt? step = some here →
              ((config.flight.area.rectangle config.rules.pitch).contains here = false ↔
                step + 1 = trajectory.size)) := by
  simp only [compute?_eq_some_iff]
  constructor
  · constructor
    · rintro ⟨-, hMemory, -⟩
      exact hMemory
    · intro hMemory
      exact ⟨_, hMemory, rfl⟩
  · rintro - ⟨-, rfl⟩
    have hShape := compute_hasShape position velocity config.rules config.flight
    refine ⟨hShape, ?_, ?_⟩
    · intro hUsable hInside
      exact hShape.minSteps_le_size (WorldConfig.minSteps_le_maxSteps hUsable) hInside
    · intro hOut step here hHere
      exact hShape.contains_eq_false_iff hOut hHere

/-- The samples that this limit allows take more memory than any allocation has. -/
def vastFlight : FlightLimits Float :=
  { maxSteps := 1152921504606846976 }

/-- A usable configuration may allow more samples than memory can be allocated for. -/
theorem compute?_vastFlight :
    ({ flight := vastFlight } : WorldConfig Float).fault? = none ∧
      compute? (Vec2.zero : Vec2 Float) Vec2.zero {} vastFlight = none :=
  ⟨by decide +kernel, if_neg (by decide)⟩

end Trajectory

end SoccerWorld
