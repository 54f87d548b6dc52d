import SoccerWorld.Geometry.Rectangle

/-!
# Rules of one match

Sizes of the pitch, motion of the ball, and limits on commands.  The defaults are those of the
soccer simulator.
-/

namespace SoccerWorld

/-- The parameters that are the same for all players of a match. -/
structure Rules (R : Type) [Scalar R] where
  /-- Half of the distance between the goal lines. -/
  pitchHalfLength : R := 52.5
  /-- Half of the distance between the touchlines. -/
  pitchHalfWidth : R := 34.0
  /-- Depth of a penalty area. -/
  penaltyAreaLength : R := 16.5
  /-- Half of the width of a penalty area. -/
  penaltyAreaHalfWidth : R := 20.16
  /-- Share of its velocity that the ball keeps per cycle. -/
  ballDecay : R := 0.94
  /-- Greatest speed of the ball. -/
  ballSpeedMax : R := 3.0
  /-- Greatest moment of a turn, in degrees. -/
  maxMoment : R := 180.0
  /-- Greatest power of a dash. -/
  maxDashPower : R := 100.0
  /-- Reach of a tackle to the front. -/
  tackleDist : R := 2.0
  /-- Reach of a tackle to the side. -/
  tackleWidth : R := 1.25
  /-- Cycles for which a tackle freezes the player. -/
  tackleCycles : UInt32 := 10
  /-- Cycles for which a foul freezes the player. -/
  foulCycles : UInt32 := 5

namespace Rules

variable {R : Type} [Scalar R]

/-- The pitch with its lines. -/
def pitch (rules : Rules R) : Rectangle R :=
  Rectangle.centered rules.pitchHalfLength rules.pitchHalfWidth

/-- The penalty area that we defend in the canonical frame. -/
def ourPenaltyArea (rules : Rules R) : Rectangle R :=
  Rectangle.ofCorners (-rules.pitchHalfLength) (-rules.penaltyAreaHalfWidth)
    (-rules.pitchHalfLength + rules.penaltyAreaLength) rules.penaltyAreaHalfWidth

/-- The penalty area that they defend in the canonical frame. -/
def theirPenaltyArea (rules : Rules R) : Rectangle R :=
  Rectangle.ofCorners (rules.pitchHalfLength - rules.penaltyAreaLength)
    (-rules.penaltyAreaHalfWidth) rules.pitchHalfLength rules.penaltyAreaHalfWidth

/-- Distance up to which a tackle can touch the ball, with `slack` added. -/
def tacklableRadius (rules : Rules R) (slack : R) : R :=
  Scalar.hypotenuse rules.tackleDist rules.tackleWidth + slack

end Rules

end SoccerWorld
