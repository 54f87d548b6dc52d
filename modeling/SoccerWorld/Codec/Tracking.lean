import SoccerWorld.Ball.Basic
import SoccerWorld.Codec.Match
import SoccerWorld.Intercept.Kinematics

/-!
# Tracked balls and players in documents

The objects of the records that a snapshot keeps, and of the kinematic state of a player.
-/

namespace SoccerWorld

namespace Ball

/-- The object of a ball. -/
def encode (ball : Ball Float) : Value :=
  .object
    [("position", ball.position.encode), ("velocity", ball.velocity.encode),
      ("pos_age", .ofWord32 ball.posAge), ("vel_age", .ofWord32 ball.velAge)]

/-- The ball of a value. -/
def decode (v : Value) : Option (Ball Float) := do
  let record ← Record.read? ["position", "velocity", "pos_age", "vel_age"] v
  let position ← record.required "position" Vec2.decode
  let velocity ← record.required "velocity" Vec2.decode
  let posAge ← record.required "pos_age" Value.word32?
  let velAge ← record.required "vel_age" Value.word32?
  pure { position, velocity, posAge, velAge }

end Ball

namespace Ages

/-- The object of the ages. -/
def encode (ages : Ages) : Value :=
  .object
    [("pos", .ofWord32 ages.pos), ("vel", .ofWord32 ages.vel), ("body", .ofWord32 ages.body),
      ("face", .ofWord32 ages.face), ("seen", .ofWord32 ages.seen)]

/-- The ages of a value. -/
def decode (v : Value) : Option Ages := do
  let record ← Record.read? ["pos", "vel", "body", "face", "seen"] v
  let pos ← record.required "pos" Value.word32?
  let vel ← record.required "vel" Value.word32?
  let body ← record.required "body" Value.word32?
  let face ← record.required "face" Value.word32?
  let seen ← record.required "seen" Value.word32?
  pure { pos, vel, body, face, seen }

end Ages

namespace Player

/-- The object of a player. -/
def encode (player : Player Float) : Value :=
  .object
    [("side", player.side.encode),
      ("unum", .ofOption Unum.encode player.unum),
      ("is_goalie", .bool player.isGoalie),
      ("type_id", .ofOption .integer player.typeId),
      ("position", player.position.encode),
      ("velocity", player.velocity.encode),
      ("body", player.body.encode),
      ("face", player.face.encode),
      ("point_dir", .ofOption Angle.encode player.pointDir),
      ("pointing_cycles", .ofWord32 player.pointingCycles),
      ("kicking", .bool player.kicking),
      ("tackle_cycles", .ofWord32 player.tackleCycles),
      ("charged_cycles", .ofWord32 player.chargedCycles),
      ("card", player.card.encode),
      ("ages", player.ages.encode),
      ("predicted_reach_step", .ofOption .ofWord32 player.reachStep)]

/-- The fields of a player in their declared order. -/
def fieldNames : List String :=
  ["side", "unum", "is_goalie", "type_id", "position", "velocity", "body", "face", "point_dir",
    "pointing_cycles", "kicking", "tackle_cycles", "charged_cycles", "card", "ages",
    "predicted_reach_step"]

/-- The player of a value. -/
def decode (v : Value) : Option (Player Float) := do
  let record ← Record.read? fieldNames v
  let side ← record.required "side" Side.decode
  let unum ← record.nullable "unum" Unum.decode
  let isGoalie ← record.required "is_goalie" Value.bool?
  let typeId ← record.nullable "type_id" Value.int32?
  let position ← record.required "position" Vec2.decode
  let velocity ← record.required "velocity" Vec2.decode
  let body ← record.required "body" Angle.decode
  let face ← record.required "face" Angle.decode
  let pointDir ← record.nullable "point_dir" Angle.decode
  let pointingCycles ← record.required "pointing_cycles" Value.word32?
  let kicking ← record.required "kicking" Value.bool?
  let tackleCycles ← record.required "tackle_cycles" Value.word32?
  let chargedCycles ← record.required "charged_cycles" Value.word32?
  let card ← record.required "card" Card.decode
  let ages ← record.required "ages" Ages.decode
  let reachStep ← record.nullable "predicted_reach_step" Value.word32?
  pure { side, unum, isGoalie, typeId, position, velocity, body, face, pointDir, pointingCycles,
         kicking, tackleCycles, chargedCycles, card, ages, reachStep }

end Player

namespace Kinematics

/-- The kinematic state of a value. -/
def decode (v : Value) : Option (Kinematics Float) := do
  let record ← Record.read?
    ["position", "velocity", "body", "type_id", "bonus_step", "penalty_step", "is_teammate"] v
  let position ← record.required "position" Vec2.decode
  let velocity ← record.required "velocity" Vec2.decode
  let body ← record.required "body" Angle.decode
  let typeId ← record.nullable "type_id" Value.int32?
  let bonusStep ← record.required "bonus_step" Value.word32?
  let penaltyStep ← record.required "penalty_step" Value.word32?
  let isTeammate ← record.required "is_teammate" Value.bool?
  pure { position, velocity, body, typeId, bonusStep, penaltyStep, isTeammate }

end Kinematics

end SoccerWorld
