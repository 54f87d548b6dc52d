import SoccerWorld.Scenario.Basic
import SoccerWorld.Snapshot.Basic

/-!
# Reports on the cycles of a scenario

A cycle report shows a snapshot in the simulator's frame.  An expectation is checked against a
cycle report; each fact that does not hold is a failure.
-/

namespace SoccerWorld

/-- One player in a cycle report. -/
structure ReachRow (R : Type) where
  /-- The player's side. -/
  side : Side
  /-- The player's uniform number, if known. -/
  unum : Option Unum
  /-- The player is a goalie. -/
  isGoalie : Bool
  /-- Where the player is, in the simulator's frame. -/
  position : Vec2 R
  /-- Cycles until the player can control the ball, if evaluated. -/
  reachStep : Option UInt32

/-- What is reported of one cycle. -/
structure CycleReport (R : Type) where
  /-- Number of the cycle. -/
  cycle : UInt32
  /-- Where the ball is, in the simulator's frame. -/
  ballPosition : Vec2 R
  /-- The players, fastest first. -/
  reachTable : List (ReachRow R)
  /-- The fastest player. -/
  fastestPlayer : Option NamedPlayer
  /-- Our fastest player. -/
  fastestTeammate : Option NamedPlayer
  /-- Their fastest player. -/
  fastestOpponent : Option NamedPlayer
  /-- The kicker. -/
  kicker : Option NamedPlayer
  /-- The side credited with the touch. -/
  kickerSide : Option Side
  /-- Both sides have a plausible touch. -/
  kickerAmbiguous : Bool
  /-- Number of plausible touches. -/
  kickerCandidates : Nat
  /-- The offside line that our players hold, in the canonical frame. -/
  ourOffsideLine : R
  /-- The offside line that their players hold, in the canonical frame. -/
  theirOffsideLine : R
  /-- Faults of the records that were left out. -/
  dropped : List RecordFault

/-- Which player an expectation is about. -/
inductive Role where
  | kicker
  | fastestPlayer
  | fastestTeammate
  | fastestOpponent
deriving DecidableEq, Repr

/-- Which offside line an expectation is about. -/
inductive LineOwner where
  | ours
  | theirs
deriving DecidableEq, Repr

/-- An expected fact that does not hold. -/
inductive Failure (R : Type) where
  /-- Another player has the role, or none. -/
  | player (cycle : UInt32) (role : Role) (expected actual : Option NamedPlayer)
  /-- The player has another reach step, or none. -/
  | reach (cycle : UInt32) (expected : ExpectedReach) (actual : Option UInt32)
  /-- The offside line runs elsewhere. -/
  | line (cycle : UInt32) (owner : LineOwner) (expected actual : R)
  /-- No observation has the expectation's cycle number. -/
  | unmatched (cycle : UInt32)

/-- What is reported of a scenario. -/
structure Report (R : Type) where
  /-- Name of the scenario. -/
  id : String
  /-- One report per observation. -/
  cycles : List (CycleReport R)
  /-- The expected facts that do not hold. -/
  failures : List (Failure R)

namespace Report

/-- Every expected fact holds. -/
def passed {R : Type} (report : Report R) : Bool :=
  report.failures.isEmpty

end Report

namespace NamedPlayer

/-- The name of a tracked player with a known number. -/
def ofPlayer? {R : Type} [Scalar R] (player : Player R) : Option NamedPlayer :=
  player.unum.map fun unum => ⟨player.side, UInt8.ofNat unum.number⟩

end NamedPlayer

namespace CycleReport

variable {R : Type} [Scalar R]

/-- The report on a snapshot. -/
def ofSnapshot (snapshot : Snapshot R) : CycleReport R :=
  let name (index : Option Nat) : Option NamedPlayer :=
    (index.bind snapshot.player?).bind NamedPlayer.ofPlayer?
  { cycle := snapshot.cycle
    ballPosition := snapshot.externalBallPosition
    reachTable := snapshot.players.map fun player =>
      ⟨player.side, player.unum, player.isGoalie, snapshot.externalPosition player,
        player.reachStep⟩
    fastestPlayer := name snapshot.fastestPlayer
    fastestTeammate := name snapshot.fastestTeammate
    fastestOpponent := name snapshot.fastestOpponent
    kicker := name snapshot.attribution.kicker
    kickerSide := snapshot.attribution.kickerSide
    kickerAmbiguous := snapshot.isKickerAmbiguous
    kickerCandidates := snapshot.attribution.candidates.length
    ourOffsideLine := snapshot.ourOffsideLine
    theirOffsideLine := snapshot.theirOffsideLine
    dropped := snapshot.diagnostics }

/-- The reach step of a player in the table. -/
def reachStep? (report : CycleReport R) (player : NamedPlayer) : Option UInt32 :=
  (report.reachTable.find? fun row =>
    row.side = player.side && row.unum.map Unum.number = some player.unum.toNat).bind
      ReachRow.reachStep

/-- The player in a role. -/
def playerIn (report : CycleReport R) : Role → Option NamedPlayer
  | .kicker => report.kicker
  | .fastestPlayer => report.fastestPlayer
  | .fastestTeammate => report.fastestTeammate
  | .fastestOpponent => report.fastestOpponent

/-- The offside line that a team's players hold. -/
def line (report : CycleReport R) : LineOwner → R
  | .ours => report.ourOffsideLine
  | .theirs => report.theirOffsideLine

end CycleReport

namespace Expectation

variable {R : Type} [Scalar R]

/-- The player expected in a role; absent where the role is not checked. -/
def playerIn (expectation : Expectation R) : Role → Option (Option NamedPlayer)
  | .kicker => expectation.kicker
  | .fastestPlayer => expectation.fastestPlayer.map some
  | .fastestTeammate => expectation.fastestTeammate.map some
  | .fastestOpponent => expectation.fastestOpponent.map some

/-- The expected offside line; absent where the line is not checked. -/
def line (expectation : Expectation R) : LineOwner → Option R
  | .ours => expectation.ourOffsideLine
  | .theirs => expectation.theirOffsideLine

/-- Distance up to which an offside line counts as the expected one. -/
def lineTolerance : R :=
  1.0e-6

/-- The failure of the fact about a role. -/
def checkRole (expectation : Expectation R) (report : CycleReport R) (role : Role) :
    Option (Failure R) :=
  match expectation.playerIn role with
  | none => none
  | some expected =>
      if expected = report.playerIn role then none
      else some (.player report.cycle role expected (report.playerIn role))

/-- The failure of the fact about a reach step. -/
def checkReach (report : CycleReport R) (expected : ExpectedReach) : Option (Failure R) :=
  let actual := report.reachStep? expected.player
  if actual = some expected.step then none else some (.reach report.cycle expected actual)

/-- The failure of the fact about an offside line. -/
def checkLine (expectation : Expectation R) (report : CycleReport R) (owner : LineOwner) :
    Option (Failure R) :=
  match expectation.line owner with
  | none => none
  | some expected =>
      if Scalar.lt lineTolerance (Scalar.abs (expected - report.line owner)) then
        some (.line report.cycle owner expected (report.line owner))
      else none

/-- The facts that do not hold in a cycle: players by role, then reach steps, then lines. -/
def check (expectation : Expectation R) (report : CycleReport R) : List (Failure R) :=
  [Role.kicker, .fastestPlayer, .fastestTeammate, .fastestOpponent].filterMap
      (expectation.checkRole report) ++
    (expectation.reachSteps.filterMap (checkReach report) ++
      [LineOwner.ours, .theirs].filterMap (expectation.checkLine report))

end Expectation

end SoccerWorld
