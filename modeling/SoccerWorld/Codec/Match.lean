import SoccerWorld.Codec.Primitive
import SoccerWorld.Match.Perspective
import SoccerWorld.Match.Status
import SoccerWorld.Observation.Fault

/-!
# Sides, numbers, cards and play modes in documents

Enumerations are words.  A play mode is an object that names its mode; a set play adds its kind and
its side.
-/

namespace SoccerWorld

namespace Side

/-- The word of a side. -/
def word : Side → String
  | left => "left"
  | right => "right"
  | neutral => "neutral"

/-- The side of a word. -/
def ofWord? (s : String) : Option Side :=
  [left, right, neutral].find? fun side => side.word = s

/-- The value of a side. -/
def encode (side : Side) : Value :=
  .text side.word

/-- The side of a value. -/
def decode (v : Value) : Option Side :=
  v.word?.bind ofWord?

/-- The side of a value in a tagged record. -/
def decodeTagged (v : Value) : Option Side :=
  (v.choice? [left.word, right.word, neutral.word]).bind ofWord?

end Side

namespace Unum

/-- The number. -/
def encode (unum : Unum) : Value :=
  .ofNat unum.number

/-- The uniform number of a value. -/
def decode (v : Value) : Option Unum :=
  (v.naturalBelow? 256).bind ofNat?

end Unum

namespace Card

/-- The word of a card. -/
def word : Card → String
  | none => "none"
  | yellow => "yellow"
  | red => "red"

/-- The card of a word. -/
def ofWord? (s : String) : Option Card :=
  [none, yellow, red].find? fun card => card.word = s

/-- The value of a card. -/
def encode (card : Card) : Value :=
  .text card.word

/-- The card of a value. -/
def decode (v : Value) : Option Card :=
  v.word?.bind ofWord?

end Card

namespace RestartKind

/-- The word of a set play. -/
def word : RestartKind → String
  | kickOff => "kick_off"
  | kickIn => "kick_in"
  | freeKick => "free_kick"
  | indirectFreeKick => "indirect_free_kick"
  | cornerKick => "corner_kick"
  | goalKick => "goal_kick"
  | goalieCatch => "goalie_catch"
  | penaltyKick => "penalty_kick"

/-- Every kind of set play. -/
def all : List RestartKind :=
  [kickOff, kickIn, freeKick, indirectFreeKick, cornerKick, goalKick, goalieCatch, penaltyKick]

/-- The set play of a word. -/
def ofWord? (s : String) : Option RestartKind :=
  all.find? fun kind => kind.word = s

/-- The set play of a value in a tagged record. -/
def decode (v : Value) : Option RestartKind :=
  (v.choice? (all.map word)).bind ofWord?

end RestartKind

namespace PlayMode

/-- The object of a play mode. -/
def encode : PlayMode → Value
  | playOn => .object [("mode", .text "play_on")]
  | beforeKickOff => .object [("mode", .text "before_kick_off")]
  | timeOver => .object [("mode", .text "time_over")]
  | restart kind side =>
      .object [("mode", .text "restart"), ("kind", .text kind.word), ("side", side.encode)]

/-- The play mode of a value. -/
def decode (v : Value) : Option PlayMode := do
  let (mode, body) ← Record.tagged? "mode" v
  match mode with
  | "play_on" => if body.isBare then some playOn else none
  | "before_kick_off" => if body.isBare then some beforeKickOff else none
  | "time_over" => if body.isBare then some timeOver else none
  | "restart" =>
      let record ← body.record? ["kind", "side"]
      let kind ← record.required "kind" RestartKind.decode
      let side ← record.required "side" Side.decodeTagged
      pure (restart kind side)
  | _ => none

end PlayMode

namespace Perspective

/-- The object of a perspective. -/
def encode (view : Perspective) : Value :=
  .object [("our_side", view.ourSide.encode)]

end Perspective

namespace RecordFault

/-- The object of a fault. -/
def encode : RecordFault → Value
  | unumOutOfRange side unum =>
      .object [("kind", .text "unum_out_of_range"), ("side", side.encode),
        ("unum", .ofWord8 unum)]
  | unassignedSide unum =>
      .object [("kind", .text "unassigned_side"), ("unum", .ofOption .ofWord8 unum)]
  | duplicateIdentity side unum =>
      .object [("kind", .text "duplicate_identity"), ("side", side.encode),
        ("unum", .ofWord8 unum)]

/-- The fault of a value. -/
def decode (v : Value) : Option RecordFault := do
  let (kind, body) ← Record.tagged? "kind" v
  match kind with
  | "unum_out_of_range" =>
      let record ← body.record? ["side", "unum"]
      let side ← record.required "side" Side.decodeTagged
      let unum ← record.required "unum" Value.word8?
      pure (unumOutOfRange side unum)
  | "unassigned_side" =>
      let record ← body.record? ["unum"]
      let unum ← record.nullable "unum" Value.word8?
      pure (unassignedSide unum)
  | "duplicate_identity" =>
      let record ← body.record? ["side", "unum"]
      let side ← record.required "side" Side.decodeTagged
      let unum ← record.required "unum" Value.word8?
      pure (duplicateIdentity side unum)
  | _ => none

end RecordFault

end SoccerWorld
