import SoccerWorld.Ball.Trajectory
import SoccerWorld.Proofs.Geometry.ExactVector

/-!
# A ball rolls along a line

A trajectory starts where the ball is (`Trajectory.origin_compute`).  In exact arithmetic friction
changes how fast the ball rolls and not where to, so all samples lie on the line through the first
one along the present velocity (`Trajectory.isOnLine_of_mem_compute`).  A ball at rest stays where
it is (`Trajectory.eq_of_mem_compute_zero`).
-/

namespace SoccerWorld

namespace Vec2

/-- The point lies on the line through `origin` along `velocity`. -/
def IsOnLine (origin velocity point : Vec2 ℝ) : Prop :=
  ∃ t, point = origin + velocity.scale t

theorem isOnLine_origin (origin velocity : Vec2 ℝ) : IsOnLine origin velocity origin :=
  ⟨0, by rw [scale_zero, add_zero_eq]⟩

/-- Along the line, points stay on it. -/
theorem IsOnLine.add_scale {origin velocity point : Vec2 ℝ}
    (hPoint : IsOnLine origin velocity point) (s : ℝ) :
    IsOnLine origin velocity (point + velocity.scale s) := by
  obtain ⟨t, rfl⟩ := hPoint
  exact ⟨t + s, add_scale_add_scale velocity origin t s⟩

end Vec2

namespace Trajectory

section Start

variable {R : Type} [Scalar R]

/-- A list that has all the samples it may have ends. -/
theorem ending?_ne_none (limits : Limits R) (position velocity : Vec2 R) {count : Nat}
    (hCount : limits.maxSteps ≤ count) : limits.ending? position velocity count ≠ none := by
  unfold Limits.ending?
  rw [if_pos hCount]
  split
  · exact Option.some_ne_none _
  · split
    · exact Option.some_ne_none _
    · exact Option.some_ne_none _

/-- Samples are added to the earlier ones, from the present one on. -/
theorem exists_follow_eq (limits : Limits R) (budget : Nat) (past : List (Vec2 R))
    (position velocity : Vec2 R) :
    ∃ later, (follow limits budget past position velocity).1 =
      past.reverse ++ position :: later := by
  induction budget generalizing past position velocity with
  | zero => exact ⟨[], by rw [follow, List.reverse_cons]⟩
  | succ budget ih =>
      rw [follow]
      split
      · exact ⟨[], by rw [List.reverse_cons]⟩
      · obtain ⟨later, hLater⟩ :=
          ih (position :: past) (position + velocity) (velocity.scale limits.decay)
        refine ⟨(position + velocity) :: later, ?_⟩
        rw [hLater, List.reverse_cons, List.append_assoc]
        rfl

theorem origin_compute (position velocity : Vec2 R) (rules : Rules R) (flight : FlightLimits R) :
    (compute position velocity rules flight).origin = position := by
  obtain ⟨later, hLater⟩ := exists_follow_eq (Limits.ofConfig rules flight)
    (Limits.ofConfig rules flight).maxSteps [] position velocity
  show (follow _ _ _ _ _).1.head?.getD Vec2.zero = position
  rw [hLater]
  rfl

end Start

/-- One cycle keeps the ball on its line, and so does any number of cycles. -/
theorem isOnLine_of_mem_follow (limits : Limits ℝ) (origin direction : Vec2 ℝ) (budget : Nat)
    (past : List (Vec2 ℝ)) (position velocity : Vec2 ℝ)
    (hPast : ∀ point ∈ past, Vec2.IsOnLine origin direction point)
    (hPosition : Vec2.IsOnLine origin direction position)
    (hVelocity : ∃ s, velocity = direction.scale s) :
    ∀ point ∈ (follow limits budget past position velocity).1,
      Vec2.IsOnLine origin direction point := by
  have hSamples : ∀ {past position}, (∀ point ∈ past, Vec2.IsOnLine origin direction point) →
      Vec2.IsOnLine origin direction position →
        ∀ point ∈ (position :: past).reverse, Vec2.IsOnLine origin direction point := by
    intro past position hPast hPosition point hPoint
    rw [List.mem_reverse, List.mem_cons] at hPoint
    rcases hPoint with rfl | hPoint
    · exact hPosition
    · exact hPast point hPoint
  induction budget generalizing past position velocity with
  | zero =>
      rw [follow]
      exact hSamples hPast hPosition
  | succ budget ih =>
      rw [follow]
      split
      · exact hSamples hPast hPosition
      · apply ih
        · intro point hPoint
          rcases List.mem_cons.mp hPoint with rfl | hPoint
          · exact hPosition
          · exact hPast point hPoint
        · obtain ⟨s, rfl⟩ := hVelocity
          exact hPosition.add_scale s
        · obtain ⟨s, rfl⟩ := hVelocity
          exact ⟨s * limits.decay, direction.scale_scale s limits.decay⟩

/-- Every sample of a trajectory lies on the line of the ball's present velocity. -/
theorem isOnLine_of_mem_compute (position velocity : Vec2 ℝ) (rules : Rules ℝ)
    (flight : FlightLimits ℝ) :
    ∀ point ∈ (compute position velocity rules flight).positions,
      Vec2.IsOnLine position velocity point := by
  refine isOnLine_of_mem_follow (Limits.ofConfig rules flight) position velocity
    (Limits.ofConfig rules flight).maxSteps [] position velocity ?_ ?_ ?_
  · intro point hNone
    contradiction
  · exact Vec2.isOnLine_origin position velocity
  · exact ⟨1, velocity.scale_one.symm⟩

/-! ## A ball at rest -/

section Rest

variable (position : Vec2 ℝ) (rules : Rules ℝ) (flight : FlightLimits ℝ)

/-- A ball at rest stays where it is. -/
theorem eq_of_mem_compute_zero {point : Vec2 ℝ}
    (hPoint : point ∈ (compute position Vec2.zero rules flight).positions) : point = position := by
  obtain ⟨t, rfl⟩ := isOnLine_of_mem_compute position Vec2.zero rules flight point hPoint
  rw [Vec2.zero_scale, Vec2.add_zero_eq]

theorem last_compute_zero : (compute position Vec2.zero rules flight).last = position := by
  obtain ⟨later, hLater⟩ := exists_follow_eq (Limits.ofConfig rules flight)
    (Limits.ofConfig rules flight).maxSteps [] position Vec2.zero
  have hPositions : (compute position Vec2.zero rules flight).positions = position :: later :=
    hLater
  cases hLast : (compute position Vec2.zero rules flight).positions.getLast? with
  | none =>
      rw [List.getLast?_eq_none_iff, hPositions] at hLast
      contradiction
  | some point =>
      rw [last, hLast]
      exact eq_of_mem_compute_zero position rules flight (List.mem_of_getLast? hLast)

end Rest

end Trajectory
end SoccerWorld
