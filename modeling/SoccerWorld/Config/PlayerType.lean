import SoccerWorld.Numeric.Scalar

/-!
# Player types

The parameters in which players of a match differ.  Type 0 is the type of every player whose type
is not known.
-/

namespace SoccerWorld

/-- The parameters of one player type as the simulator reports them. -/
structure PlayerType (R : Type) [Scalar R] where
  /-- Number of the type. -/
  id : Int := 0
  /-- Speed to which the simulator limits the player. -/
  speedMax : R := 1.05
  /-- Share of its velocity that the player keeps per cycle. -/
  decay : R := 0.4
  /-- Resistance of a moving body against turning. -/
  inertiaMoment : R := 5.0
  /-- Acceleration per unit of dash power. -/
  dashPowerRate : R := 0.006
  /-- Effort of a rested player. -/
  effortMax : R := 1.0
  /-- Distance up to which the ball can be kicked. -/
  kickableRadius : R := 0.7
  /-- Distance up to which a goalie can catch the ball. -/
  catchableRadius : R := 1.3

namespace PlayerType

/-- The type number that stands for the default type. -/
def defaultId : Int :=
  0

end PlayerType

end SoccerWorld
