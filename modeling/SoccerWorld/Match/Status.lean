import SoccerWorld.Match.Identity

/-!
# Referee state

Cards and play modes, as far as the world model needs them.
-/

namespace SoccerWorld

/-- The card that a player was last shown. -/
inductive Card where
  | none
  | yellow
  | red
deriving DecidableEq, Repr

/-- A set play that hands the ball to one side. -/
inductive RestartKind where
  | kickOff
  | kickIn
  | freeKick
  | indirectFreeKick
  | cornerKick
  | goalKick
  | goalieCatch
  | penaltyKick
deriving DecidableEq, Repr

/-- The referee's play mode. -/
inductive PlayMode where
  | playOn
  | beforeKickOff
  | timeOver
  /-- A set play, executed by a side. -/
  | restart (kind : RestartKind) (side : Side)
deriving DecidableEq, Repr

namespace PlayMode

/-- The side that executes a set play, if an assigned side does. -/
def restartSide : PlayMode → Option Side
  | restart _ side => if side.isAssigned then some side else none
  | _ => none

/-- The ball is in play without a set play. -/
def isPlayOn : PlayMode → Bool
  | playOn => true
  | _ => false

end PlayMode

end SoccerWorld
