import SoccerWorld.Config.Profile
import SoccerWorld.Observation.Basic

/-!
# Scenarios

A scenario is a recorded sequence of observations together with the agent's side and configuration,
and facts that are expected of its cycles.
-/

namespace SoccerWorld

/-- A player as named in scenarios; the number is not checked. -/
structure NamedPlayer where
  /-- The player's side. -/
  side : Side
  /-- The number on the shirt. -/
  unum : UInt8
deriving DecidableEq, Repr

/-- The reach step that is expected of a player. -/
structure ExpectedReach where
  /-- The player. -/
  player : NamedPlayer
  /-- The expected step. -/
  step : UInt32
deriving DecidableEq, Repr

/-- What is expected of the cycles with one number.  Absent facts are not checked. -/
structure Expectation (R : Type) where
  /-- Number of the cycles. -/
  cycle : UInt32
  /-- The kicker; the inner absence expects that there is none. -/
  kicker : Option (Option NamedPlayer) := none
  /-- The fastest player. -/
  fastestPlayer : Option NamedPlayer := none
  /-- Our fastest player. -/
  fastestTeammate : Option NamedPlayer := none
  /-- Their fastest player. -/
  fastestOpponent : Option NamedPlayer := none
  /-- Reach steps of single players. -/
  reachSteps : List ExpectedReach := []
  /-- The offside line that our players hold. -/
  ourOffsideLine : Option R := none
  /-- The offside line that their players hold. -/
  theirOffsideLine : Option R := none

/-- A recorded sequence of observations. -/
structure Scenario (R : Type) [Scalar R] where
  /-- Name of the scenario. -/
  id : String
  /-- What the scenario shows. -/
  description : Option String := none
  /-- The agent's side. -/
  ourSide : Side
  /-- The agent's number, not checked. -/
  selfUnum : Option UInt8 := none
  /-- Name of the agent's profile. -/
  profile : Option String := none
  /-- The agent's configuration, which takes precedence over the profile. -/
  config : Option (WorldConfig R) := none
  /-- The observations. -/
  cycles : List (CycleObservation R)
  /-- The expected facts. -/
  expectations : List (Expectation R) := []

namespace Scenario

variable {R : Type} [Scalar R]

/-- The configuration that the scenario asks for, if it is usable. -/
def resolveConfig (scenario : Scenario R) : Except (ConfigError R) (WorldConfig R) :=
  match scenario.config, scenario.profile with
  | some config, _ => config.validate
  | none, some name => (WorldConfig.ofProfile name).bind WorldConfig.validate
  | none, none => WorldConfig.standard.validate

end Scenario

end SoccerWorld
