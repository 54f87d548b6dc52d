import SoccerWorld.Config.Basic
import SoccerWorld.Intercept.Search
import SoccerWorld.Snapshot.Tracking
import SoccerWorld.Tactics.Kicker
import SoccerWorld.Tactics.Offside
import SoccerWorld.Tactics.ReachOrder

/-!
# Building a snapshot

An observer turns the observation of one cycle, with the snapshot of the cycle before, into a new
snapshot: ball and players are tracked, every player's reach step is predicted against the ball's
trajectory, players are sorted by it, and tables, offside lines and the last touch follow.

`Observer.build` is the snapshot itself.  `Observer.build?` is the snapshot if memory for the ball's
trajectory can be allocated, and otherwise there is none.
-/

namespace SoccerWorld

/-- A deadline for the evaluation of players, by what the clock says: it is read again before each
player, and may say anything each time. -/
structure Deadline where
  /-- There is time left when the player at this place of the list is to be evaluated. -/
  hasTime : Nat → Bool

/-- No deadline, or one that does not pass. -/
def Deadline.ahead : Deadline :=
  ⟨fun _ => true⟩

/-- A deadline that passed before the first player. -/
def Deadline.passed : Deadline :=
  ⟨fun _ => false⟩

/-- One agent's view of a match. -/
structure Observer (R : Type) [Scalar R] where
  /-- All parameters. -/
  config : WorldConfig R
  /-- Motions by player type. -/
  types : TypeRegistry R
  /-- The side from which the match is seen. -/
  perspective : Perspective
  /-- The agent's own uniform number, if known. -/
  selfUnum : Option Unum

namespace Observer

variable {R : Type} [Scalar R]

/-- The observer on a side, for an agent with the given number; a number that is no uniform number
counts as unknown. -/
def create (ourSide : Side) (config : WorldConfig R) (selfUnum : Option Nat) : Observer R where
  config := config
  types := TypeRegistry.ofTypes config.rules config.playerTypes
  perspective := ⟨ourSide⟩
  selfUnum := selfUnum.bind Unum.ofNat?

/-- The predictor with this observer's parameters. -/
def predictor (observer : Observer R) : Predictor R :=
  ⟨observer.config.rules, observer.types, observer.config.search⟩

/-- The reach step of a tracked player. -/
def reachStep (observer : Observer R) (trajectory : Trajectory R) (player : Player R) : UInt32 :=
  observer.predictor.bestStep
    (Kinematics.ofPlayer player observer.perspective.ourSide observer.config.rules
      observer.config.search)
    trajectory player.isGoalie

/-- The player with its reach step, if there is time to predict it. -/
def evaluate (observer : Observer R) (inTime : Bool) (trajectory : Trajectory R)
    (player : Player R) : Player R :=
  if inTime then { player with reachStep := some (observer.reachStep trajectory player) }
  else player

/-- The players from a place of the list on, evaluated one after another until there is no time
left. -/
def evaluateInTurn (observer : Observer R) (deadline : Deadline) (trajectory : Trajectory R) :
    (place : Nat) → List (Player R) → List (Player R)
  | _, [] => []
  | place, player :: rest =>
      if deadline.hasTime place then
        observer.evaluate true trajectory player ::
          evaluateInTurn observer deadline trajectory (place + 1) rest
      else player :: rest

/-- The players evaluated in the manner that the configuration asks for: in turn, or each one for
itself. -/
def evaluateAll (observer : Observer R) (deadline : Deadline) (trajectory : Trajectory R)
    (players : List (Player R)) : List (Player R) :=
  match observer.config.search.evaluation with
  | .sequential => observer.evaluateInTurn deadline trajectory 0 players
  | .parallel =>
      players.mapIdx fun place player =>
        observer.evaluate (deadline.hasTime place) trajectory player

/-- Positions and numbers of the identified players on one team, in the order of the list. -/
def teamEntries (isTeam : Side → Bool) (players : List (Player R)) : List (Unum × Nat) :=
  players.zipIdx.filterMap fun (player, index) =>
    if isTeam player.side then player.unum.map fun unum => (unum, index) else none

/-- The table of a team; of two players with one number the later counts. -/
def teamSlots (entries : List (Unum × Nat)) : TeamSlots :=
  fun unum => (entries.reverse.find? fun entry => entry.1 = unum).map Prod.snd

/-- The first of some players that was evaluated. -/
def firstEvaluated (players : List (Player R)) (indices : List Nat) : Option Nat :=
  indices.find? fun index => (players[index]?.bind Player.reachStep).isSome

/-- First coordinates of the players on one team. -/
def teamLine (isTeam : Side → Bool) (players : List (Player R)) : List R :=
  (players.filter fun player => isTeam player.side).map fun player => player.position.x

/-- The snapshot of one cycle from tracked ball and players and the ball's trajectory. -/
def assemble (observer : Observer R) (observation : CycleObservation R)
    (previous : Option (Snapshot R)) (deadline : Deadline) (ball : Ball R)
    (tracked : List (Player R)) (diagnostics : List RecordFault) (trajectory : Trajectory R) :
    Snapshot R :=
  let players :=
    sortByReach Player.reachStep (observer.evaluateAll deadline trajectory tracked)
  -- From here on players are referred to by their position in the sorted list.
  let isOurs : Side → Bool := fun side => side = observer.perspective.ourSide
  let isTheirs : Side → Bool := fun side => !isOurs side
  let ours := teamEntries isOurs players
  let theirs := teamEntries isTheirs players
  let touchRules : TouchRules R := ⟨observer.config.rules, observer.types, observer.config.touch⟩
  { cycle := observation.cycle
    perspective := observer.perspective
    selfUnum := observer.selfUnum
    playMode := observation.playMode
    ball := ball
    trajectory := trajectory
    players := players
    teammateSlots := teamSlots ours
    opponentSlots := teamSlots theirs
    teammatesByReach := ours.map Prod.snd
    opponentsByReach := theirs.map Prod.snd
    ourOffsideLine := Offside.lineTowardNegative (teamLine isOurs players)
    theirOffsideLine := Offside.lineTowardPositive (teamLine isTheirs players)
    attribution := touchRules.attribution players ball observation.playMode previous
    fastestPlayer := firstEvaluated players [0]
    fastestTeammate := firstEvaluated players (ours.map Prod.snd)
    fastestOpponent := firstEvaluated players (theirs.map Prod.snd)
    diagnostics := diagnostics }

/-- The ball of one cycle. -/
def trackedBall (observer : Observer R) (observation : CycleObservation R)
    (previous : Option (Snapshot R)) : Ball R :=
  Tracking.ball observer.config.rules.ballDecay observer.perspective previous observation.ball

/-- The players of one cycle, before their reach steps are predicted. -/
def tracked (observer : Observer R) (observation : CycleObservation R)
    (previous : Option (Snapshot R)) : List (Player R) :=
  Tracking.players observer.types observer.config.maxUnseenCycles observer.perspective previous
    (PlayerObservation.sift [] observation.players).1

/-- The snapshot of one cycle, given the ball's trajectory. -/
def buildAlong (observer : Observer R) (observation : CycleObservation R)
    (previous : Option (Snapshot R)) (deadline : Deadline) (trajectory : Trajectory R) :
    Snapshot R :=
  observer.assemble observation previous deadline (observer.trackedBall observation previous)
    (observer.tracked observation previous) (PlayerObservation.sift [] observation.players).2
    trajectory

/-- The trajectory of a ball under the observer's parameters. -/
def trajectoryOf (observer : Observer R) (ball : Ball R) : Trajectory R :=
  Trajectory.compute ball.position ball.velocity observer.config.rules observer.config.flight

/-- The snapshot of one cycle. -/
def build (observer : Observer R) (observation : CycleObservation R)
    (previous : Option (Snapshot R)) (deadline : Deadline) : Snapshot R :=
  observer.buildAlong observation previous deadline
    (observer.trajectoryOf (observer.trackedBall observation previous))

/-- The snapshot of one cycle, if memory for the ball's trajectory can be allocated. -/
def build? (observer : Observer R) (observation : CycleObservation R)
    (previous : Option (Snapshot R)) (deadline : Deadline) : Option (Snapshot R) :=
  let ball := observer.trackedBall observation previous
  (Trajectory.compute? ball.position ball.velocity observer.config.rules
    observer.config.flight).map (observer.buildAlong observation previous deadline)

end Observer

end SoccerWorld
