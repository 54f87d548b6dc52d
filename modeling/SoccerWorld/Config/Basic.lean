import SoccerWorld.Config.PlayerType
import SoccerWorld.Config.Rules
import SoccerWorld.Config.Tuning

/-!
# The configuration of a world model

All parameters of one agent, the check that they are usable, and the configurations for the
usual kinds of session.
-/

namespace SoccerWorld

/-- All parameters of one agent's world model. -/
structure WorldConfig (R : Type) [Scalar R] where
  /-- Rules of the match. -/
  rules : Rules R := {}
  /-- The player types of the match; none in a homogeneous match. -/
  playerTypes : List (PlayerType R) := []
  /-- Tuning of the reach search. -/
  search : SearchTuning R := {}
  /-- How far the ball is followed. -/
  flight : FlightLimits R := {}
  /-- Tuning of the attribution of touches. -/
  touch : TouchTuning R := {}
  /-- Cycles for which an unseen player is kept. -/
  maxUnseenCycles : UInt32 := 30

/-- A parameter that makes a configuration unusable. -/
inductive ParameterFault (R : Type) where
  /-- The ball would not slow down. -/
  | ballDecay (value : R)
  /-- The ball would not be followed at all. -/
  | noSteps
  /-- More samples are asked for than allowed. -/
  | stepsCrossed (minSteps maxSteps : Nat)
  /-- Players of a type would not slow down. -/
  | playerDecay (typeId : Int) (value : R)

namespace WorldConfig

variable {R : Type} [Scalar R]

/-- A share of velocity kept per cycle: at least zero and below one. -/
def isDecay (value : R) : Bool :=
  Scalar.le 0.0 value && Scalar.lt value 1.0

/-- The first unusable parameter: of the ball, then of the flight, then of the types in order. -/
def fault? (config : WorldConfig R) : Option (ParameterFault R) :=
  if !isDecay config.rules.ballDecay then some (.ballDecay config.rules.ballDecay)
  else if config.flight.maxSteps = 0 then some .noSteps
  else if config.flight.maxSteps < config.flight.minSteps then
    some (.stepsCrossed config.flight.minSteps config.flight.maxSteps)
  else
    (config.playerTypes.find? fun type => !isDecay type.decay).map fun type =>
      .playerDecay type.id type.decay

/-- An ordinary match. -/
def standard : WorldConfig R :=
  {}

/-- A keep-away training: a small area and a short window. -/
def keepAway : WorldConfig R :=
  { flight := { maxSteps := 50, area := FlightArea.training } }

/-- An ordinary match in which players are evaluated all at once. -/
def parallel : WorldConfig R :=
  { search := { evaluation := Evaluation.parallel } }

end WorldConfig

end SoccerWorld
