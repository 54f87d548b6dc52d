import SoccerWorld.Ball.Trajectory
import SoccerWorld.Intercept.Kinematics
import SoccerWorld.Intercept.Turn
import SoccerWorld.Locomotion.Registry

/-!
# When a player reaches the ball

The reach step of a player is the least number of cycles after which the player can control the
ball.  It is zero for a ball under control, else the first step of the trajectory at which turning
and dashing succeed, else an estimate for the place where the ball comes to rest.

Two tests skip steps without simulating them: a lower bound from the distance to the ball's line,
and a reach at full speed.  `Reach.isAchievable` is the simulation alone.
-/

namespace SoccerWorld

/-- The parameters of a match by which reach steps are predicted. -/
structure Predictor (R : Type) [Scalar R] where
  /-- Rules of the match. -/
  rules : Rules R
  /-- Motions by player type. -/
  types : TypeRegistry R
  /-- Tuning of the search. -/
  search : SearchTuning R

/-- One prediction: a player, its motion, and the role in which it goes for the ball. -/
structure Reach (R : Type) [Scalar R] where
  /-- Rules of the match. -/
  rules : Rules R
  /-- Tuning of the search. -/
  search : SearchTuning R
  /-- The player. -/
  player : Kinematics R
  /-- How the player moves. -/
  motion : Locomotion R
  /-- The player may catch, inside the own penalty area only. -/
  isGoalie : Bool

namespace Reach

variable {R : Type} [Scalar R]

/-- A radius as it counts for the player: smaller for one of ours. -/
def shrink (reach : Reach R) (radius : R) : R :=
  if reach.player.isTeammate then
    Scalar.positivePart (radius - reach.search.teammateControlShrink)
  else radius

/-- Control radius of the role. -/
def rawControl (reach : Reach R) : R :=
  reach.motion.controlRadius reach.isGoalie

/-- Control radius of the role as it counts in the search. -/
def control (reach : Reach R) : R :=
  reach.shrink reach.rawControl

/-- The penalty area that the player defends. -/
def penaltyArea (reach : Reach R) : Rectangle R :=
  if reach.player.isTeammate then reach.rules.ourPenaltyArea else reach.rules.theirPenaltyArea

/-- The role allows to control the ball at this place. -/
def isAllowedAt (reach : Reach R) (ball : Vec2 R) : Bool :=
  !reach.isGoalie || reach.penaltyArea.contains ball

/-- The bonus as a number. -/
def bonus (reach : Reach R) : Int :=
  reach.player.bonusStep.toNat

/-- The penalty as a number. -/
def penalty (reach : Reach R) : Int :=
  reach.player.penaltyStep.toNat

/-- The ball lies under the player's control and the player is free to move. -/
def controlsNow (reach : Reach R) (ball : Vec2 R) : Bool :=
  reach.player.penaltyStep = 0 &&
    (reach.isAllowedAt ball &&
      Scalar.le (ball - reach.player.position).norm reach.rawControl)

/-- Whole cycles in which full speed covers the distance to the ball's line. -/
def cyclesToLine (reach : Reach R) (trajectory : Trajectory R) : Int :=
  let perpendicular :=
    Vec2.distanceToLine trajectory.origin trajectory.direction reach.player.position
  Scalar.floor (Scalar.positivePart (perpendicular - reach.control) /
    Scalar.maximum reach.motion.type.speedMax 1.0e-6)

/-- Number of steps that the search leaves out, from the distance to the ball's line.  The cycles
are cut off at the largest signed number of 64 bits; a lockout added to so large a number wraps. -/
def firstStep (reach : Reach R) (trajectory : Trajectory R) : Nat :=
  (Int64.ofIntClamp (reach.cyclesToLine trajectory) - Int64.ofInt reach.bonus +
    Int64.ofInt reach.penalty).toNatClampNeg

/-- Farthest distance that full speed covers by a step, control radius and slack included. -/
def fullSpeedReach (reach : Reach R) (step : Nat) : R :=
  -- The bonus counts as time to move, and the penalty as time lost.
  let cycles : Int := step + reach.bonus - reach.penalty
  Scalar.positivePart
    (reach.control + reach.motion.type.speedMax * Scalar.ofInt cycles + reach.search.reachMargin)

/-- Not even full speed brings the player to the ball by this step. -/
def isOutOfReach (reach : Reach R) (ball : Vec2 R) (step : Nat) : Bool :=
  let radius := reach.fullSpeedReach step
  Scalar.lt (radius * radius) (ball - reach.player.position).normSquared

/-- Way from the place to which inertia carries the player within `step` cycles to the ball. -/
def wayToBall (reach : Reach R) (ball : Vec2 R) (step : Nat) : Vec2 R :=
  ball - reach.motion.inertiaPoint reach.player.position reach.player.velocity step

/-- Turns that the player needs before dashing along `way`. -/
def turns (reach : Reach R) (control : R) (way : Vec2 R) : Nat :=
  Turning.count reach.rules reach.search reach.motion reach.player.body reach.player.velocity
    control way way.norm

/-- Turning and then dashing brings the ball under control by this step, which is not reduced to a
word. -/
def isAchievable (reach : Reach R) (ball : Vec2 R) (step : Nat) : Bool :=
  let way := reach.wayToBall ball step
  let turns := reach.turns reach.control way
  let available : Int := step - turns - reach.penalty
  let remaining := way.norm - reach.control
  if available < 0 then false
  else if Scalar.le remaining 0.0 then true
  else
    -- The turns use up the bonus first; what is left of it is credited to the dashes.
    let dashes : Int := (reach.motion.cyclesToReach remaining).toNat
    let credit := max (reach.bonus - turns) 0
    dashes - credit ≤ available

/-- The search succeeds at this step. -/
def succeedsAt (reach : Reach R) (ball : Vec2 R) (step : Nat) : Bool :=
  reach.isAllowedAt ball && (!reach.isOutOfReach ball step && reach.isAchievable ball step)

/-- The first step, from `first` on, of a trajectory that passes a test. -/
def firstSuccess (test : Vec2 R → Nat → Bool) (trajectory : Trajectory R) (first : Nat) :
    Option Nat :=
  ((trajectory.positions.zipIdx.drop first).find? fun sample => test sample.1 sample.2).map
    Prod.snd

/-- Control radius at the place where the ball comes to rest: a goalie cannot catch there outside
the penalty area. -/
def restingControl (reach : Reach R) (ball : Vec2 R) : R :=
  if reach.isAllowedAt ball then reach.control
  else reach.shrink (reach.motion.controlRadius false)

/-- Cycles in which the player reaches the last position of a trajectory, after coming to rest. -/
def restingEstimate (reach : Reach R) (trajectory : Trajectory R) : Int :=
  let ball := trajectory.last
  let control := reach.restingControl ball
  let way := reach.wayToBall ball reach.search.fallbackSteps.toNat
  let remaining := way.norm - control
  let dashes := if Scalar.lt 0.0 remaining then reach.motion.cyclesToReach remaining else 0
  (reach.turns control way : Int) + dashes.toNat - reach.bonus + reach.penalty

/-- The estimate for the resting place, but not before the trajectory's last step. -/
def restingStep (reach : Reach R) (trajectory : Trajectory R) : UInt32 :=
  Word.ofInt (max (reach.restingEstimate trajectory) ((trajectory.size - 1 : Nat) : Int))

/-- The reach step, with steps searched from `first` on by a test.  Steps are numbers, and the
result is cut off at the largest word, which no window of up to 2 ^ 32 samples leads beyond. -/
def stepBy (reach : Reach R) (test : Vec2 R → Nat → Bool) (first : Nat)
    (trajectory : Trajectory R) : UInt32 :=
  if reach.controlsNow trajectory.origin then 0
  else
    match firstSuccess test trajectory first with
    | some step => Word.ofInt step
    | none => reach.restingStep trajectory

/-- The reach step. -/
def step (reach : Reach R) (trajectory : Trajectory R) : UInt32 :=
  reach.stepBy reach.succeedsAt (reach.firstStep trajectory) trajectory

/-- The reach step without the tests that skip steps: every step of the window is simulated. -/
def exhaustiveStep (reach : Reach R) (trajectory : Trajectory R) : UInt32 :=
  reach.stepBy (fun ball step => reach.isAllowedAt ball && reach.isAchievable ball step) 0
    trajectory

end Reach

namespace Predictor

variable {R : Type} [Scalar R]

/-- The prediction for one player in one role. -/
def reach (predictor : Predictor R) (player : Kinematics R) (isGoalie : Bool) : Reach R where
  rules := predictor.rules
  search := predictor.search
  player := player
  motion := predictor.types.get player.typeId
  isGoalie := isGoalie

/-- The reach step of one player in one role. -/
def predict (predictor : Predictor R) (player : Kinematics R) (trajectory : Trajectory R)
    (isGoalie : Bool) : UInt32 :=
  (predictor.reach player isGoalie).step trajectory

/-- The reach step of a player: a goalie goes for the ball in the better of both roles. -/
def bestStep (predictor : Predictor R) (player : Kinematics R) (trajectory : Trajectory R)
    (isGoalie : Bool) : UInt32 :=
  let field := predictor.predict player trajectory false
  if isGoalie then min field (predictor.predict player trajectory true) else field

end Predictor

end SoccerWorld
