import SoccerWorld.Config.Rules
import SoccerWorld.Config.Tuning
import SoccerWorld.Geometry.Angle

/-!
# Where the ball will be

The positions of a rolling ball in the coming cycles, starting with the present one.  The list ends
with the first sample outside the area, or where the ball has stopped, or at the step limit.

Memory for the samples is allocated beforehand, for as many of them as the step limit allows.  A
limit that no allocation can meet ends the computation (`Trajectory.compute?`); an allocation within
the bounds is taken to succeed.
-/

namespace SoccerWorld

/-- Why a trajectory ends where it does. -/
inductive TrajectoryEnd where
  /-- The ball is slow. -/
  | stopped
  /-- The last sample lies outside the area. -/
  | outOfBounds
  /-- The step limit was met by a moving ball. -/
  | stepLimit
deriving DecidableEq, Repr

/-- The positions of a rolling ball, cycle by cycle. -/
structure Trajectory (R : Type) where
  /-- The present position and those after 1, 2, … cycles. -/
  positions : List (Vec2 R)
  /-- The present velocity. -/
  initialVelocity : Vec2 R
  /-- Why the list ends. -/
  ending : TrajectoryEnd

namespace Trajectory

variable {R : Type} [Scalar R]

/-- What a trajectory's end depends on. -/
structure Limits (R : Type) where
  /-- Area outside of which the ball is not followed. -/
  area : Rectangle R
  /-- Greatest number of samples, at least one. -/
  maxSteps : Nat
  /-- Number of samples from which a slow ball counts as stopped. -/
  minSteps : Nat
  /-- Speed below which the ball is slow. -/
  stopSpeed : R
  /-- Share of its velocity that the ball keeps per cycle. -/
  decay : R

/-- The limits that a configuration sets. -/
def Limits.ofConfig (rules : Rules R) (flight : FlightLimits R) : Limits R where
  area := flight.area.rectangle rules.pitch
  maxSteps := max flight.maxSteps 1
  minSteps := min flight.minSteps (max flight.maxSteps 1)
  stopSpeed := flight.stopSpeed
  decay := rules.ballDecay

/-- Why the trajectory ends at its `count`-th sample, if it ends there. -/
def Limits.ending? (limits : Limits R) (position velocity : Vec2 R) (count : Nat) :
    Option TrajectoryEnd :=
  if !limits.area.contains position then some .outOfBounds
  else if Scalar.lt velocity.norm limits.stopSpeed && limits.minSteps ≤ count then some .stopped
  else if limits.maxSteps ≤ count then some .stepLimit
  else none

/-- Samples from the one at `position` on, after the `past` ones, which are given in reverse.  Of
the samples that the limit allows, `budget` are left, the present one included. -/
def follow (limits : Limits R) :
    (budget : Nat) → (past : List (Vec2 R)) → (position velocity : Vec2 R) →
      List (Vec2 R) × TrajectoryEnd
  | 0, past, position, _ => ((position :: past).reverse, .stepLimit)
  | budget + 1, past, position, velocity =>
      match limits.ending? position velocity (limits.maxSteps - budget) with
      | some ending => ((position :: past).reverse, ending)
      | none =>
          follow limits budget (position :: past) (position + velocity)
            (velocity.scale limits.decay)

/-- The trajectory of a ball with the given position and velocity. -/
def compute (position velocity : Vec2 R) (rules : Rules R) (flight : FlightLimits R) :
    Trajectory R :=
  let limits := Limits.ofConfig rules flight
  let (positions, ending) := follow limits limits.maxSteps [] position velocity
  ⟨positions, velocity, ending⟩

/-- Bytes that one sample takes: two floating-point numbers. -/
def sampleBytes : Nat :=
  16

/-- No allocation is of more bytes. -/
def maxBytes : Nat :=
  9223372036854775807

/-- Memory for as many samples as the step limit allows can be allocated. -/
def IsAllocatable (flight : FlightLimits R) : Prop :=
  max flight.maxSteps 1 * sampleBytes ≤ maxBytes

instance (flight : FlightLimits R) : Decidable (IsAllocatable flight) :=
  inferInstanceAs (Decidable (_ ≤ _))

/-- The trajectory of a ball, if memory for its samples can be allocated. -/
def compute? (position velocity : Vec2 R) (rules : Rules R) (flight : FlightLimits R) :
    Option (Trajectory R) :=
  if IsAllocatable flight then some (compute position velocity rules flight) else none

/-- Number of samples. -/
def size (trajectory : Trajectory R) : Nat :=
  trajectory.positions.length

/-- The position after `step` cycles, if the ball was followed so far. -/
def positionAt? (trajectory : Trajectory R) (step : Nat) : Option (Vec2 R) :=
  trajectory.positions[step]?

/-- The present position. -/
def origin (trajectory : Trajectory R) : Vec2 R :=
  trajectory.positions.head?.getD Vec2.zero

/-- The last position, where the ball is taken to come to rest. -/
def last (trajectory : Trajectory R) : Vec2 R :=
  trajectory.positions.getLast?.getD Vec2.zero

/-- Direction in which the ball rolls; zero for a ball at rest. -/
def direction (trajectory : Trajectory R) : Angle R :=
  trajectory.initialVelocity.direction

end Trajectory

end SoccerWorld
