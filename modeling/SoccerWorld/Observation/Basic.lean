import SoccerWorld.Geometry.Angle
import SoccerWorld.Match.Status

/-!
# What the sensors deliver in one cycle

Records are in the simulator's frame.  An absent optional field was not observed this cycle.
-/

namespace SoccerWorld

/-- The ball as seen this cycle. -/
structure BallObservation (R : Type) where
  /-- Where the ball is. -/
  position : Vec2 R
  /-- How far it moves per cycle. -/
  velocity : Vec2 R

/-- One player as seen this cycle. -/
structure PlayerObservation (R : Type) [Scalar R] where
  /-- The player's side. -/
  side : Side
  /-- The number read off the shirt, not yet checked; absent if unreadable. -/
  unum : Option UInt8 := none
  /-- The player was recognised as a goalie. -/
  isGoalie : Bool := false
  /-- The player's type, if the sensor reports it. -/
  typeId : Option Int := none
  /-- Where the player is. -/
  position : Vec2 R
  /-- How far the player moves per cycle. -/
  velocity : Option (Vec2 R) := none
  /-- Direction of the body. -/
  body : Option (Angle R) := none
  /-- Direction of the face. -/
  face : Option (Angle R) := none
  /-- Direction of the raised arm. -/
  pointing : Option (Angle R) := none
  /-- The player kicks. -/
  kicking : Bool := false
  /-- The player tackles. -/
  tackling : Bool := false
  /-- The player is frozen for a foul. -/
  charged : Bool := false
  /-- The card that the player was shown. -/
  card : Option Card := none

/-- Everything the sensors deliver in one cycle. -/
structure CycleObservation (R : Type) [Scalar R] where
  /-- Number of the cycle. -/
  cycle : UInt32
  /-- The referee's play mode. -/
  playMode : PlayMode := PlayMode.playOn
  /-- The ball, if it was seen. -/
  ball : Option (BallObservation R) := none
  /-- The players in the order in which they were reported. -/
  players : List (PlayerObservation R) := []

namespace PlayerObservation

variable {R : Type} [Scalar R]

/-- The record with a velocity. -/
def withVelocity (record : PlayerObservation R) (velocity : Vec2 R) : PlayerObservation R :=
  { record with velocity := some velocity }

/-- The record with a body direction. -/
def withBody (record : PlayerObservation R) (body : Angle R) : PlayerObservation R :=
  { record with body := some body }

/-- The record of a goalie. -/
def asGoalie (record : PlayerObservation R) : PlayerObservation R :=
  { record with isGoalie := true }

/-- The record of a player that kicks. -/
def whileKicking (record : PlayerObservation R) : PlayerObservation R :=
  { record with kicking := true }

/-- The record of a player that tackles. -/
def whileTackling (record : PlayerObservation R) : PlayerObservation R :=
  { record with tackling := true }

end PlayerObservation

namespace CycleObservation

variable {R : Type} [Scalar R]

/-- The observation with the ball in it. -/
def withBall (observation : CycleObservation R) (ball : BallObservation R) :
    CycleObservation R :=
  { observation with ball := some ball }

/-- The observation with one more player at the end. -/
def withPlayer (observation : CycleObservation R) (record : PlayerObservation R) :
    CycleObservation R :=
  { observation with players := observation.players ++ [record] }

/-- The observation under another play mode. -/
def withPlayMode (observation : CycleObservation R) (mode : PlayMode) : CycleObservation R :=
  { observation with playMode := mode }

end CycleObservation

end SoccerWorld
