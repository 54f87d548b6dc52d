import SoccerWorld.Ball.Trajectory
import SoccerWorld.Ball.Basic
import SoccerWorld.Match.Perspective
import SoccerWorld.Observation.Fault
import SoccerWorld.Player.Basic
import SoccerWorld.Tactics.Touch

/-!
# The world as of one cycle

A snapshot holds the ball, the players in the order in which they reach the ball, and what follows
from them.  Positions are in the canonical frame, in which our side attacks along the first axis.
Players are referred to by their position in the snapshot's list.
-/

namespace SoccerWorld

/-- A table of one team: for each uniform number the position of its player in the list. -/
abbrev TeamSlots := Unum → Option Nat

/-- The world as of one cycle. -/
structure Snapshot (R : Type) [Scalar R] where
  /-- Number of the cycle. -/
  cycle : UInt32
  /-- The frame in which the snapshot is written. -/
  perspective : Perspective
  /-- The agent's own uniform number, if known. -/
  selfUnum : Option Unum
  /-- The referee's play mode. -/
  playMode : PlayMode
  /-- The ball. -/
  ball : Ball R
  /-- Where the ball will be. -/
  trajectory : Trajectory R
  /-- The players, fastest to the ball first. -/
  players : List (Player R)
  /-- Our players by uniform number. -/
  teammateSlots : TeamSlots
  /-- Their players by uniform number. -/
  opponentSlots : TeamSlots
  /-- Our players with a known number, fastest first. -/
  teammatesByReach : List Nat
  /-- Their players with a known number, fastest first. -/
  opponentsByReach : List Nat
  /-- The offside line that our players hold. -/
  ourOffsideLine : R
  /-- The offside line that their players hold. -/
  theirOffsideLine : R
  /-- To whom the last touch is attributed. -/
  attribution : Attribution R
  /-- The fastest player, if evaluated. -/
  fastestPlayer : Option Nat
  /-- Our fastest evaluated player. -/
  fastestTeammate : Option Nat
  /-- Their fastest evaluated player. -/
  fastestOpponent : Option Nat
  /-- Faults of the records that were left out. -/
  diagnostics : List RecordFault

namespace Snapshot

variable {R : Type} [Scalar R]

/-- The side that we play on. -/
def ourSide (snapshot : Snapshot R) : Side :=
  snapshot.perspective.ourSide

/-- The player at a position of the list. -/
def player? (snapshot : Snapshot R) (index : Nat) : Option (Player R) :=
  snapshot.players[index]?

/-- Our player with a uniform number. -/
def teammate? (snapshot : Snapshot R) (unum : Unum) : Option (Player R) :=
  (snapshot.teammateSlots unum).bind snapshot.player?

/-- Their player with a uniform number. -/
def opponent? (snapshot : Snapshot R) (unum : Unum) : Option (Player R) :=
  (snapshot.opponentSlots unum).bind snapshot.player?

/-- Our players with a known number, fastest first. -/
def teammates (snapshot : Snapshot R) : List (Player R) :=
  snapshot.teammatesByReach.filterMap snapshot.player?

/-- Their players with a known number, fastest first. -/
def opponents (snapshot : Snapshot R) : List (Player R) :=
  snapshot.opponentsByReach.filterMap snapshot.player?

/-- The player of an identity, looked up in the table of its team. -/
def find? (snapshot : Snapshot R) (identity : Identity) : Option (Player R) :=
  if identity.side = snapshot.ourSide then snapshot.teammate? identity.unum
  else if identity.side = snapshot.perspective.theirSide then snapshot.opponent? identity.unum
  else none

/-- The agent's own player. -/
def selfPlayer? (snapshot : Snapshot R) : Option (Player R) :=
  snapshot.selfUnum.bind snapshot.teammate?

/-- Both sides have a plausible touch and no kicker was named. -/
def isKickerAmbiguous (snapshot : Snapshot R) : Bool :=
  snapshot.attribution.kicker.isNone && Touch.isContested snapshot.attribution.candidates

/-- A player's position in the simulator's frame. -/
def externalPosition (snapshot : Snapshot R) (player : Player R) : Vec2 R :=
  snapshot.perspective.turnVector player.position

/-- The ball's position in the simulator's frame. -/
def externalBallPosition (snapshot : Snapshot R) : Vec2 R :=
  snapshot.perspective.turnVector snapshot.ball.position

end Snapshot

end SoccerWorld
