import SoccerWorld.Config.Tuning
import SoccerWorld.Player.Basic

/-!
# What a prediction knows of a player

The kinematic state from which a reach step is predicted, either put together by hand or read off a
tracked player.
-/

namespace SoccerWorld

/-- The kinematic state of one player. -/
structure Kinematics (R : Type) [Scalar R] where
  /-- Where the player is. -/
  position : Vec2 R
  /-- How far the player moves per cycle. -/
  velocity : Vec2 R
  /-- Direction of the body. -/
  body : Angle R
  /-- The player's type, if known. -/
  typeId : Option Int
  /-- Steps credited for a fresh observation. -/
  bonusStep : UInt32
  /-- Cycles for which the player cannot move. -/
  penaltyStep : UInt32
  /-- The player is one of ours and defends the goal at the negative end. -/
  isTeammate : Bool

namespace Kinematics

variable {R : Type} [Scalar R]

/-- A player that stands still, of the default type, without bonus or penalty. -/
def atRest (position : Vec2 R) (body : Angle R) (isTeammate : Bool) : Kinematics R where
  position := position
  velocity := Vec2.zero
  body := body
  typeId := none
  bonusStep := 0
  penaltyStep := 0
  isTeammate := isTeammate

/-- The state of a tracked player as seen from `ourSide`. -/
def ofPlayer (player : Player R) (ourSide : Side) (rules : Rules R) (search : SearchTuning R) :
    Kinematics R where
  position := player.position
  velocity := player.velocity
  body := player.body
  typeId := player.typeId
  bonusStep := search.bonusStep player.ages.pos
  penaltyStep := player.lockoutRemaining rules.tackleCycles rules.foulCycles
  isTeammate := player.side = ourSide

end Kinematics

end SoccerWorld
