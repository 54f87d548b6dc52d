import SoccerWorld.Codec.Primitive
import SoccerWorld.Config.Basic

/-!
# Configurations in documents

Every field of a configuration may be left out and then has its default.
-/

namespace SoccerWorld

namespace Rules

/-- The object of the rules. -/
def encode (rules : Rules Float) : Value :=
  .object
    [("pitch_half_length", .ofFloat rules.pitchHalfLength),
      ("pitch_half_width", .ofFloat rules.pitchHalfWidth),
      ("penalty_area_length", .ofFloat rules.penaltyAreaLength),
      ("penalty_area_half_width", .ofFloat rules.penaltyAreaHalfWidth),
      ("ball_decay", .ofFloat rules.ballDecay),
      ("ball_speed_max", .ofFloat rules.ballSpeedMax),
      ("max_moment", .ofFloat rules.maxMoment),
      ("max_dash_power", .ofFloat rules.maxDashPower),
      ("tackle_dist", .ofFloat rules.tackleDist),
      ("tackle_width", .ofFloat rules.tackleWidth),
      ("tackle_cycles", .ofWord32 rules.tackleCycles),
      ("foul_cycles", .ofWord32 rules.foulCycles)]

/-- The fields of the rules in their declared order. -/
def fieldNames : List String :=
  ["pitch_half_length", "pitch_half_width", "penalty_area_length", "penalty_area_half_width",
    "ball_decay", "ball_speed_max", "max_moment", "max_dash_power", "tackle_dist", "tackle_width",
    "tackle_cycles", "foul_cycles"]

/-- The rules of a value. -/
def decode (v : Value) : Option (Rules Float) := do
  let standard : Rules Float := {}
  let record ← Record.read? fieldNames v
  let number (name : String) (default : Float) : Option Float :=
    record.withDefault name default Value.real?
  let pitchHalfLength ← number "pitch_half_length" standard.pitchHalfLength
  let pitchHalfWidth ← number "pitch_half_width" standard.pitchHalfWidth
  let penaltyAreaLength ← number "penalty_area_length" standard.penaltyAreaLength
  let penaltyAreaHalfWidth ← number "penalty_area_half_width" standard.penaltyAreaHalfWidth
  let ballDecay ← number "ball_decay" standard.ballDecay
  let ballSpeedMax ← number "ball_speed_max" standard.ballSpeedMax
  let maxMoment ← number "max_moment" standard.maxMoment
  let maxDashPower ← number "max_dash_power" standard.maxDashPower
  let tackleDist ← number "tackle_dist" standard.tackleDist
  let tackleWidth ← number "tackle_width" standard.tackleWidth
  let tackleCycles ← record.withDefault "tackle_cycles" standard.tackleCycles Value.word32?
  let foulCycles ← record.withDefault "foul_cycles" standard.foulCycles Value.word32?
  pure { pitchHalfLength, pitchHalfWidth, penaltyAreaLength, penaltyAreaHalfWidth, ballDecay,
         ballSpeedMax, maxMoment, maxDashPower, tackleDist, tackleWidth, tackleCycles,
         foulCycles }

end Rules

namespace PlayerType

/-- The object of a player type. -/
def encode (type : PlayerType Float) : Value :=
  .object
    [("id", .integer type.id),
      ("speed_max", .ofFloat type.speedMax),
      ("decay", .ofFloat type.decay),
      ("inertia_moment", .ofFloat type.inertiaMoment),
      ("dash_power_rate", .ofFloat type.dashPowerRate),
      ("effort_max", .ofFloat type.effortMax),
      ("kickable_radius", .ofFloat type.kickableRadius),
      ("catchable_radius", .ofFloat type.catchableRadius)]

/-- The fields of a player type in their declared order. -/
def fieldNames : List String :=
  ["id", "speed_max", "decay", "inertia_moment", "dash_power_rate", "effort_max",
    "kickable_radius", "catchable_radius"]

/-- The player type of a value. -/
def decode (v : Value) : Option (PlayerType Float) := do
  let standard : PlayerType Float := {}
  let record ← Record.read? fieldNames v
  let number (name : String) (default : Float) : Option Float :=
    record.withDefault name default Value.real?
  let id ← record.withDefault "id" standard.id Value.int32?
  let speedMax ← number "speed_max" standard.speedMax
  let decay ← number "decay" standard.decay
  let inertiaMoment ← number "inertia_moment" standard.inertiaMoment
  let dashPowerRate ← number "dash_power_rate" standard.dashPowerRate
  let effortMax ← number "effort_max" standard.effortMax
  let kickableRadius ← number "kickable_radius" standard.kickableRadius
  let catchableRadius ← number "catchable_radius" standard.catchableRadius
  pure { id, speedMax, decay, inertiaMoment, dashPowerRate, effortMax, kickableRadius,
         catchableRadius }

end PlayerType

namespace Evaluation

/-- The word of a manner of evaluation. -/
def word : Evaluation → String
  | sequential => "sequential"
  | parallel => "parallel"

/-- The manner of evaluation of a value. -/
def decode (v : Value) : Option Evaluation :=
  v.word?.bind fun s => [sequential, parallel].find? fun evaluation => evaluation.word = s

end Evaluation

namespace SearchTuning

/-- The object of a search tuning. -/
def encode (tuning : SearchTuning Float) : Value :=
  .object
    [("reach_margin", .ofFloat tuning.reachMargin),
      ("teammate_control_shrink", .ofFloat tuning.teammateControlShrink),
      ("min_turn_tolerance_deg", .ofFloat tuning.minTurnTolerance),
      ("back_dash_dist", .ofFloat tuning.backDashDist),
      ("max_bonus_step", .ofWord32 tuning.maxBonusStep),
      ("fallback_steps", .ofWord32 tuning.fallbackSteps),
      ("max_turn_iterations", .ofWord32 tuning.maxTurnIterations),
      ("evaluation", .text tuning.evaluation.word)]

/-- The fields of a search tuning in their declared order. -/
def fieldNames : List String :=
  ["reach_margin", "teammate_control_shrink", "min_turn_tolerance_deg", "back_dash_dist",
    "max_bonus_step", "fallback_steps", "max_turn_iterations", "evaluation"]

/-- The search tuning of a value. -/
def decode (v : Value) : Option (SearchTuning Float) := do
  let standard : SearchTuning Float := {}
  let record ← Record.read? fieldNames v
  let number (name : String) (default : Float) : Option Float :=
    record.withDefault name default Value.real?
  let count (name : String) (default : UInt32) : Option UInt32 :=
    record.withDefault name default Value.word32?
  let reachMargin ← number "reach_margin" standard.reachMargin
  let teammateControlShrink ← number "teammate_control_shrink" standard.teammateControlShrink
  let minTurnTolerance ← number "min_turn_tolerance_deg" standard.minTurnTolerance
  let backDashDist ← number "back_dash_dist" standard.backDashDist
  let maxBonusStep ← count "max_bonus_step" standard.maxBonusStep
  let fallbackSteps ← count "fallback_steps" standard.fallbackSteps
  let maxTurnIterations ← count "max_turn_iterations" standard.maxTurnIterations
  let evaluation ← record.withDefault "evaluation" standard.evaluation Evaluation.decode
  pure { reachMargin, teammateControlShrink, minTurnTolerance, backDashDist, maxBonusStep,
         fallbackSteps, maxTurnIterations, evaluation }

end SearchTuning

namespace FlightArea

/-- The object of a flight area. -/
def encode : FlightArea Float → Value
  | pitch margin => .object [("kind", .text "pitch"), ("margin", .ofFloat margin)]
  | keepAway halfLength halfWidth =>
      .object [("kind", .text "keep_away"), ("half_length", .ofFloat halfLength),
        ("half_width", .ofFloat halfWidth)]

/-- The flight area of a value. -/
def decode (v : Value) : Option (FlightArea Float) := do
  let (kind, body) ← Record.tagged? "kind" v
  match kind with
  | "pitch" =>
      let record ← body.record? ["margin"]
      let margin ← record.required "margin" Value.real?
      pure (pitch margin)
  | "keep_away" =>
      let record ← body.record? ["half_length", "half_width"]
      let halfLength ← record.required "half_length" Value.real?
      let halfWidth ← record.required "half_width" Value.real?
      pure (keepAway halfLength halfWidth)
  | _ => none

end FlightArea

namespace FlightLimits

/-- The object of flight limits. -/
def encode (flight : FlightLimits Float) : Value :=
  .object
    [("max_steps", .ofNat flight.maxSteps),
      ("min_steps", .ofNat flight.minSteps),
      ("stop_speed", .ofFloat flight.stopSpeed),
      ("bounds", flight.area.encode)]

/-- The flight limits of a value. -/
def decode (v : Value) : Option (FlightLimits Float) := do
  let standard : FlightLimits Float := {}
  let record ← Record.read? ["max_steps", "min_steps", "stop_speed", "bounds"] v
  let maxSteps ← record.withDefault "max_steps" standard.maxSteps Value.size?
  let minSteps ← record.withDefault "min_steps" standard.minSteps Value.size?
  let stopSpeed ← record.withDefault "stop_speed" standard.stopSpeed Value.real?
  let area ← record.withDefault "bounds" standard.area FlightArea.decode
  pure { maxSteps, minSteps, stopSpeed, area }

end FlightLimits

namespace TouchTuning

/-- The object of a touch tuning. -/
def encode (tuning : TouchTuning Float) : Value :=
  .object [("tackle_epsilon", .ofFloat tuning.tackleEpsilon)]

/-- The touch tuning of a value. -/
def decode (v : Value) : Option (TouchTuning Float) := do
  let standard : TouchTuning Float := {}
  let record ← Record.read? ["tackle_epsilon"] v
  let tackleEpsilon ← record.withDefault "tackle_epsilon" standard.tackleEpsilon Value.real?
  pure { tackleEpsilon }

end TouchTuning

namespace WorldConfig

/-- The object of a configuration. -/
def encode (config : WorldConfig Float) : Value :=
  .object
    [("server", config.rules.encode),
      ("player_types", .ofList PlayerType.encode config.playerTypes),
      ("predictor", config.search.encode),
      ("trajectory", config.flight.encode),
      ("kicker", config.touch.encode),
      ("max_unseen_cycles", .ofWord32 config.maxUnseenCycles)]

/-- The fields of a configuration in their declared order. -/
def fieldNames : List String :=
  ["server", "player_types", "predictor", "trajectory", "kicker", "max_unseen_cycles"]

/-- The configuration of a value. -/
def decode (v : Value) : Option (WorldConfig Float) := do
  let record ← Record.read? fieldNames v
  let rules ← record.withDefault "server" {} Rules.decode
  let playerTypes ← record.withDefault "player_types" [] (Value.list? PlayerType.decode)
  let search ← record.withDefault "predictor" {} SearchTuning.decode
  let flight ← record.withDefault "trajectory" {} FlightLimits.decode
  let touch ← record.withDefault "kicker" {} TouchTuning.decode
  let maxUnseenCycles ← record.withDefault "max_unseen_cycles" 30 Value.word32?
  pure { rules, playerTypes, search, flight, touch, maxUnseenCycles }

end WorldConfig

end SoccerWorld
