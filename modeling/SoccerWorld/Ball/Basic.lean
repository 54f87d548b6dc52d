import SoccerWorld.Observation.Basic

/-!
# The tracked ball

The ball as of one cycle, with the ages of what is known about it.
-/

namespace SoccerWorld

/-- The ball of one snapshot. -/
structure Ball (R : Type) where
  /-- Where the ball is. -/
  position : Vec2 R
  /-- How far it moves per cycle. -/
  velocity : Vec2 R
  /-- Cycles since the position was observed. -/
  posAge : UInt32
  /-- Cycles since the velocity was observed. -/
  velAge : UInt32

namespace Ball

variable {R : Type} [Scalar R]

/-- A ball at rest on the centre spot, just seen. -/
def atRest : Ball R :=
  ⟨Vec2.zero, Vec2.zero, 0, 0⟩

/-- A ball that was never seen: on the centre spot, as old as can be. -/
def unknown : Ball R :=
  ⟨Vec2.zero, Vec2.zero, 4294967295, 4294967295⟩

/-- The ball of an observation. -/
def observed (observation : BallObservation R) : Ball R :=
  ⟨observation.position, observation.velocity, 0, 0⟩

/-- The ball one cycle later, rolling and unseen. -/
def propagated (ball : Ball R) (decay : R) : Ball R where
  position := ball.position + ball.velocity
  velocity := ball.velocity.scale decay
  posAge := Word.succ ball.posAge
  velAge := Word.succ ball.velAge

/-- How far the ball moves per cycle, as a length. -/
def speed (ball : Ball R) : R :=
  ball.velocity.norm

end Ball

end SoccerWorld
