import SoccerWorld.Geometry.Rectangle

/-!
# Tuning of prediction and attribution

How far the ball is followed, how the reach search is bounded, and how much slack a touch has.
-/

namespace SoccerWorld

/-- In which manner the players of a cycle are evaluated.  Players evaluated in time have the same
steps in both. -/
inductive Evaluation where
  /-- One after another. -/
  | sequential
  /-- All at once. -/
  | parallel
deriving DecidableEq, Repr

/-- Tuning of the search for the reach step. -/
structure SearchTuning (R : Type) [Scalar R] where
  /-- Slack of the reach at full speed. -/
  reachMargin : R := 0.5
  /-- Length by which the control radius of our own players is reduced. -/
  teammateControlShrink : R := 0.1
  /-- Heading error, in degrees, that never needs a turn. -/
  minTurnTolerance : R := 15.0
  /-- Distance below which a player may dash backward. -/
  backDashDist : R := 10.0
  /-- Steps credited to a player that was seen this cycle. -/
  maxBonusStep : UInt32 := 3
  /-- Cycles of passive motion after which a player counts as at rest. -/
  fallbackSteps : UInt32 := 100
  /-- Greatest number of turns that are simulated. -/
  maxTurnIterations : UInt32 := 16
  /-- Manner of evaluation. -/
  evaluation : Evaluation := Evaluation.sequential

namespace SearchTuning

variable {R : Type} [Scalar R]

/-- Steps credited to a player whose position is `age` cycles old. -/
def bonusStep (tuning : SearchTuning R) (age : UInt32) : UInt32 :=
  Word.sub tuning.maxBonusStep age

end SearchTuning

/-- The area in which the ball is followed. -/
inductive FlightArea (R : Type) where
  /-- The pitch with a margin around it. -/
  | pitch (margin : R)
  /-- A training area around the centre spot. -/
  | keepAway (halfLength halfWidth : R)
deriving DecidableEq

namespace FlightArea

variable {R : Type} [Scalar R]

/-- The area as a rectangle. -/
def rectangle (area : FlightArea R) (pitchArea : Rectangle R) : Rectangle R :=
  match area with
  | pitch margin => pitchArea.expand margin
  | keepAway halfLength halfWidth => Rectangle.centered halfLength halfWidth

/-- The area of a keep-away training. -/
def training : FlightArea R :=
  keepAway 10.0 10.0

end FlightArea

/-- How far the ball is followed. -/
structure FlightLimits (R : Type) [Scalar R] where
  /-- Greatest number of samples, the present position included. -/
  maxSteps : Nat := 100
  /-- Number of samples from which a slow ball counts as stopped. -/
  minSteps : Nat := 10
  /-- Speed below which the ball is slow. -/
  stopSpeed : R := 0.01
  /-- The area in which the ball is followed. -/
  area : FlightArea R := FlightArea.pitch 5.0

/-- Tuning of the attribution of touches. -/
structure TouchTuning (R : Type) [Scalar R] where
  /-- Slack of the tacklable radius. -/
  tackleEpsilon : R := 1.0e-5

end SoccerWorld
