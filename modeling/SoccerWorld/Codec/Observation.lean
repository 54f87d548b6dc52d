import SoccerWorld.Codec.Match
import SoccerWorld.Observation.Basic

/-!
# Observations in documents

The objects of ball, player and cycle observations.
-/

namespace SoccerWorld

namespace BallObservation

/-- The object of a ball observation. -/
def encode (ball : BallObservation Float) : Value :=
  .object [("position", ball.position.encode), ("velocity", ball.velocity.encode)]

/-- The ball observation of a value. -/
def decode (v : Value) : Option (BallObservation Float) := do
  let record ← Record.read? ["position", "velocity"] v
  let position ← record.required "position" Vec2.decode
  let velocity ← record.required "velocity" Vec2.decode
  pure ⟨position, velocity⟩

end BallObservation

namespace PlayerObservation

/-- The object of a player observation. -/
def encode (player : PlayerObservation Float) : Value :=
  .object
    [("side", player.side.encode),
      ("unum", .ofOption .ofWord8 player.unum),
      ("is_goalie", .bool player.isGoalie),
      ("type_id", .ofOption .integer player.typeId),
      ("position", player.position.encode),
      ("velocity", .ofOption Vec2.encode player.velocity),
      ("body_angle", .ofOption Angle.encode player.body),
      ("face_angle", .ofOption Angle.encode player.face),
      ("pointing", .ofOption Angle.encode player.pointing),
      ("kicking", .bool player.kicking),
      ("tackling", .bool player.tackling),
      ("charged", .bool player.charged),
      ("card", .ofOption Card.encode player.card)]

/-- The fields of a player observation in their declared order. -/
def fieldNames : List String :=
  ["side", "unum", "is_goalie", "type_id", "position", "velocity", "body_angle", "face_angle",
    "pointing", "kicking", "tackling", "charged", "card"]

/-- The player observation of a value. -/
def decode (v : Value) : Option (PlayerObservation Float) := do
  let record ← Record.read? fieldNames v
  let side ← record.required "side" Side.decode
  let unum ← record.optional "unum" Value.word8?
  let isGoalie ← record.withDefault "is_goalie" false Value.bool?
  let typeId ← record.optional "type_id" Value.int32?
  let position ← record.required "position" Vec2.decode
  let velocity ← record.optional "velocity" Vec2.decode
  let body ← record.optional "body_angle" Angle.decode
  let face ← record.optional "face_angle" Angle.decode
  let pointing ← record.optional "pointing" Angle.decode
  let kicking ← record.withDefault "kicking" false Value.bool?
  let tackling ← record.withDefault "tackling" false Value.bool?
  let charged ← record.withDefault "charged" false Value.bool?
  let card ← record.optional "card" Card.decode
  pure { side, unum, isGoalie, typeId, position, velocity, body, face, pointing, kicking,
         tackling, charged, card }

end PlayerObservation

namespace CycleObservation

/-- The object of a cycle observation. -/
def encode (observation : CycleObservation Float) : Value :=
  .object
    [("cycle", .ofWord32 observation.cycle),
      ("play_mode", observation.playMode.encode),
      ("ball", .ofOption BallObservation.encode observation.ball),
      ("players", .ofList PlayerObservation.encode observation.players)]

/-- The cycle observation of a value. -/
def decode (v : Value) : Option (CycleObservation Float) := do
  let record ← Record.read? ["cycle", "play_mode", "ball", "players"] v
  let cycle ← record.required "cycle" Value.word32?
  let playMode ← record.withDefault "play_mode" PlayMode.playOn PlayMode.decode
  let ball ← record.optional "ball" BallObservation.decode
  let players ← record.withDefault "players" [] (Value.list? PlayerObservation.decode)
  pure { cycle, playMode, ball, players }

end CycleObservation

end SoccerWorld
