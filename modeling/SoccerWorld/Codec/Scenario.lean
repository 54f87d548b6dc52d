import SoccerWorld.Codec.Config
import SoccerWorld.Codec.Observation
import SoccerWorld.Document.File
import SoccerWorld.Scenario.Report

/-!
# Scenarios and reports in documents

The objects of scenarios, which are read and written, and of reports, which are written.  The kicker
of an expectation has three states: left out, null for nobody, and a player.
-/

namespace SoccerWorld

namespace NamedPlayer

/-- The object of a named player. -/
def encode (player : NamedPlayer) : Value :=
  .object [("side", player.side.encode), ("unum", .ofWord8 player.unum)]

/-- The named player of a value. -/
def decode (v : Value) : Option NamedPlayer := do
  let record ← Record.read? ["side", "unum"] v
  let side ← record.required "side" Side.decode
  let unum ← record.required "unum" Value.word8?
  pure ⟨side, unum⟩

/-- The text of an optional named player in messages. -/
def describe? : Option NamedPlayer → String
  | none => "None"
  | some player =>
      "Some(ScenarioPlayerRef \x7b side: " ++ player.side.name ++ ", unum: " ++
        toString player.unum.toNat ++ " \x7d)"

end NamedPlayer

namespace ExpectedReach

/-- The object of an expected reach step. -/
def encode (expected : ExpectedReach) : Value :=
  .object [("player", expected.player.encode), ("step", .ofWord32 expected.step)]

/-- The expected reach step of a value. -/
def decode (v : Value) : Option ExpectedReach := do
  let record ← Record.read? ["player", "step"] v
  let player ← record.required "player" NamedPlayer.decode
  let step ← record.required "step" Value.word32?
  pure ⟨player, step⟩

end ExpectedReach

namespace Expectation

/-- The field of the kicker, which is left out where the kicker is not checked. -/
def encodeKicker : Option (Option NamedPlayer) → List (String × Value)
  | none => []
  | some kicker => [("kicker", .ofOption NamedPlayer.encode kicker)]

/-- The object of an expectation. -/
def encode (expectation : Expectation Float) : Value :=
  .object
    (("cycle", .ofWord32 expectation.cycle) ::
      (encodeKicker expectation.kicker ++
        [("fastest_player", .ofOption NamedPlayer.encode expectation.fastestPlayer),
          ("fastest_teammate", .ofOption NamedPlayer.encode expectation.fastestTeammate),
          ("fastest_opponent", .ofOption NamedPlayer.encode expectation.fastestOpponent),
          ("reach_steps", .ofList ExpectedReach.encode expectation.reachSteps),
          ("our_offside_line_x", .ofOption .ofFloat expectation.ourOffsideLine),
          ("their_offside_line_x", .ofOption .ofFloat expectation.theirOffsideLine)]))

/-- The fields of an expectation in their declared order. -/
def fieldNames : List String :=
  ["cycle", "kicker", "fastest_player", "fastest_teammate", "fastest_opponent", "reach_steps",
    "our_offside_line_x", "their_offside_line_x"]

/-- The expectation of a value. -/
def decode (v : Value) : Option (Expectation Float) := do
  let record ← Record.read? fieldNames v
  let cycle ← record.required "cycle" Value.word32?
  let kicker ← record.withDefault "kicker" none fun v =>
    (v.optional? NamedPlayer.decode).map some
  let fastestPlayer ← record.optional "fastest_player" NamedPlayer.decode
  let fastestTeammate ← record.optional "fastest_teammate" NamedPlayer.decode
  let fastestOpponent ← record.optional "fastest_opponent" NamedPlayer.decode
  let reachSteps ← record.withDefault "reach_steps" [] (Value.list? ExpectedReach.decode)
  let ourOffsideLine ← record.optional "our_offside_line_x" Value.real?
  let theirOffsideLine ← record.optional "their_offside_line_x" Value.real?
  pure { cycle, kicker, fastestPlayer, fastestTeammate, fastestOpponent, reachSteps,
         ourOffsideLine, theirOffsideLine }

end Expectation

namespace Scenario

/-- The object of a scenario. -/
def encode (scenario : Scenario Float) : Value :=
  .object
    [("id", .text scenario.id),
      ("description", .ofOption .text scenario.description),
      ("our_side", scenario.ourSide.encode),
      ("self_unum", .ofOption .ofWord8 scenario.selfUnum),
      ("profile", .ofOption .text scenario.profile),
      ("config", .ofOption WorldConfig.encode scenario.config),
      ("cycles", .ofList CycleObservation.encode scenario.cycles),
      ("assertions", .ofList Expectation.encode scenario.expectations)]

/-- The fields of a scenario in their declared order. -/
def fieldNames : List String :=
  ["id", "description", "our_side", "self_unum", "profile", "config", "cycles", "assertions"]

/-- The scenario of a value. -/
def decode (v : Value) : Option (Scenario Float) := do
  let record ← Record.read? fieldNames v
  let id ← record.required "id" Value.text?
  let description ← record.optional "description" Value.text?
  let ourSide ← record.required "our_side" Side.decode
  let selfUnum ← record.optional "self_unum" Value.word8?
  let profile ← record.optional "profile" Value.text?
  let config ← record.optional "config" WorldConfig.decode
  let cycles ← record.required "cycles" (Value.list? CycleObservation.decode)
  let expectations ← record.withDefault "assertions" [] (Value.list? Expectation.decode)
  pure { id, description, ourSide, selfUnum, profile, config, cycles, expectations }

end Scenario

/-! ## Reports -/

/-- The name of a role in messages. -/
def Role.name : Role → String
  | kicker => "kicker"
  | fastestPlayer => "fastest_player"
  | fastestTeammate => "fastest_teammate"
  | fastestOpponent => "fastest_opponent"

/-- The name of an offside line in messages. -/
def LineOwner.name : LineOwner → String
  | ours => "our_offside_line_x"
  | theirs => "their_offside_line_x"

/-- The text of an optional reach step in messages. -/
def optionalStep : Option UInt32 → String
  | none => "None"
  | some step => "Some(" ++ toString step.toNat ++ ")"

/-- The text of a failure. -/
def Failure.message : Failure Float → String
  | player cycle role expected actual =>
      "cycle " ++ toString cycle.toNat ++ ": " ++ role.name ++ " expected " ++
        NamedPlayer.describe? expected ++ ", got " ++ NamedPlayer.describe? actual
  | reach cycle expected actual =>
      "cycle " ++ toString cycle.toNat ++ ": reach step of " ++ expected.player.side.name ++
        " #" ++ toString expected.player.unum.toNat ++ " expected " ++
        toString expected.step.toNat ++ ", got " ++ optionalStep actual
  | line cycle owner expected actual =>
      "cycle " ++ toString cycle.toNat ++ ": " ++ owner.name ++ " expected " ++
        DecimalText.message expected ++ ", got " ++ DecimalText.message actual
  | unmatched cycle =>
      "assertion for cycle " ++ toString cycle.toNat ++ " matches no observation"

/-- The object of one player in a cycle report. -/
def ReachRow.encode (row : ReachRow Float) : Value :=
  .object
    [("side", row.side.encode), ("unum", .ofOption Unum.encode row.unum),
      ("is_goalie", .bool row.isGoalie), ("position", row.position.encode),
      ("reach_step", .ofOption .ofWord32 row.reachStep)]

/-- The object of a cycle report. -/
def CycleReport.encode (report : CycleReport Float) : Value :=
  .object
    [("cycle", .ofWord32 report.cycle),
      ("ball_position", report.ballPosition.encode),
      ("reach_table", .ofList ReachRow.encode report.reachTable),
      ("fastest_player", .ofOption NamedPlayer.encode report.fastestPlayer),
      ("fastest_teammate", .ofOption NamedPlayer.encode report.fastestTeammate),
      ("fastest_opponent", .ofOption NamedPlayer.encode report.fastestOpponent),
      ("kicker", .ofOption NamedPlayer.encode report.kicker),
      ("kicker_side", .ofOption Side.encode report.kickerSide),
      ("kicker_ambiguous", .bool report.kickerAmbiguous),
      ("kicker_candidates", .ofNat report.kickerCandidates),
      ("our_offside_line_x", .ofFloat report.ourOffsideLine),
      ("their_offside_line_x", .ofFloat report.theirOffsideLine),
      ("dropped", .ofList (fun fault => .text fault.message) report.dropped)]

/-- The object of a report. -/
def Report.encode (report : Report Float) : Value :=
  .object
    [("id", .text report.id),
      ("cycles", .ofList CycleReport.encode report.cycles),
      ("assertion_failures",
        .ofList (fun failure => .text failure.message) report.failures)]

end SoccerWorld
