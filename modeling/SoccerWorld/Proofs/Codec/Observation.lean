import SoccerWorld.Codec.Observation
import SoccerWorld.Proofs.Codec.Match

/-!
# Observations are read as they were written

An optional part of an observation is written as null where it is absent, and may be left out just
as well.  Of a player only the side and the position must be given, of a cycle only its number, and
of the ball both vectors.
-/

namespace SoccerWorld

namespace BallObservation

/-- Both vectors are finite. -/
structure IsWritable (ball : BallObservation Float) : Prop where
  position : ball.position.IsFinite
  velocity : ball.velocity.IsFinite

/-- A ball can be read without what is left out: that is nothing. -/
def MayLack (cut : Cut) : Prop :=
  cut.Spares ["position", "velocity"]

theorem decode_without {ball : BallObservation Float} (hWritable : ball.IsWritable) {cut : Cut}
    (hCut : MayLack cut) : decode (ball.encode.without cut) = some ball := by
  have hNames : ["position", "velocity"].Nodup := by decide
  have hRecord : Record.read? ["position", "velocity"] (ball.encode.without cut) =
      some (.ofEncoded ball.encode cut) :=
    Record.read?_without ball.encode rfl hNames (List.Sublist.refl _) cut
  have hPosition := Record.required_ofEncoded ball.encode cut "position" rfl
    (hCut _ (by simp)) (Vec2.decode_without hWritable.position _)
  have hVelocity := Record.required_ofEncoded ball.encode cut "velocity" rfl
    (hCut _ (by simp)) (Vec2.decode_without hWritable.velocity _)
  rw [decode, bind_of_read hRecord, bind_of_read hPosition, bind_of_read hVelocity]
  rfl

end BallObservation

namespace PlayerObservation

/-- The doubles are finite, and the number of the type is a word of 32 bits. -/
structure IsWritable (player : PlayerObservation Float) : Prop where
  typeId : ∀ id, player.typeId = some id → -2147483648 ≤ id ∧ id < 2147483648
  position : player.position.IsFinite
  velocity : ∀ velocity, player.velocity = some velocity → velocity.IsFinite

/-- The player with the fields that are left out at their defaults. -/
def without (player : PlayerObservation Float) (cut : Cut) : PlayerObservation Float where
  side := player.side
  unum := cut.kept "unum" none player.unum
  isGoalie := cut.kept "is_goalie" false player.isGoalie
  typeId := cut.kept "type_id" none player.typeId
  position := player.position
  velocity := cut.kept "velocity" none player.velocity
  body := cut.kept "body_angle" none player.body
  face := cut.kept "face_angle" none player.face
  pointing := cut.kept "pointing" none player.pointing
  kicking := cut.kept "kicking" false player.kicking
  tackling := cut.kept "tackling" false player.tackling
  charged := cut.kept "charged" false player.charged
  card := cut.kept "card" none player.card

/-- A player can be read without what is left out: neither side nor position is. -/
def MayLack (cut : Cut) : Prop :=
  cut.Spares ["side", "position"]

theorem decode_without {player : PlayerObservation Float} (hWritable : player.IsWritable)
    {cut : Cut} (hCut : MayLack cut) :
    decode (player.encode.without cut) = some (player.without cut) := by
  have hNames : fieldNames.Nodup := by decide
  have hRecord : Record.read? fieldNames (player.encode.without cut) =
      some (.ofEncoded player.encode cut) :=
    Record.read?_without player.encode rfl hNames (List.Sublist.refl _) cut
  have hSide := Record.required_ofEncoded player.encode cut "side" rfl (hCut _ (by simp))
    (player.side.decode_without _)
  have hUnum := Record.optional_ofEncoded_leaf player.encode cut "unum" rfl
    (fun _ _ => rfl) fun raw _ => Value.word8?_without _ raw
  have hTypeId := Record.optional_ofEncoded_leaf player.encode cut "type_id" rfl
    (fun _ _ => rfl) fun id hId =>
      Value.int32?_without _ (hWritable.typeId id hId).1 (hWritable.typeId id hId).2
  have hPosition := Record.required_ofEncoded player.encode cut "position" rfl
    (hCut _ (by simp)) (Vec2.decode_without hWritable.position _)
  have hVelocity := Record.optional_ofEncoded_leaf player.encode cut "velocity" rfl
    (fun _ _ => rfl) fun velocity hSome =>
      Vec2.decode_without (hWritable.velocity velocity hSome) _
  have hAngle : ∀ name (angle : Option (Angle Float)),
      player.encode.field? name = some (.ofOption Angle.encode angle) →
        (Record.ofEncoded player.encode cut).optional name Angle.decode =
          some (cut.kept name none angle) :=
    fun name angle hField => Record.optional_ofEncoded_leaf player.encode cut name hField
      (fun a _ => a.isNull_encode _) fun a _ => a.decode_without _
  have hFlag : ∀ name flag, player.encode.field? name = some (.bool flag) →
      ∀ default, (Record.ofEncoded player.encode cut).withDefault name default Value.bool? =
        some (cut.kept name default flag) :=
    fun name flag hField => Record.withDefault_ofEncoded player.encode cut name hField rfl
  have hCard := Record.optional_ofEncoded_leaf player.encode cut "card" rfl
    (fun _ _ => rfl) fun card _ => card.decode_without _
  rw [decode, bind_of_read hRecord, bind_of_read hSide, bind_of_read hUnum,
    bind_of_read (hFlag "is_goalie" player.isGoalie rfl _), bind_of_read hTypeId,
    bind_of_read hPosition, bind_of_read hVelocity,
    bind_of_read (hAngle "body_angle" player.body rfl),
    bind_of_read (hAngle "face_angle" player.face rfl),
    bind_of_read (hAngle "pointing" player.pointing rfl),
    bind_of_read (hFlag "kicking" player.kicking rfl _),
    bind_of_read (hFlag "tackling" player.tackling rfl _),
    bind_of_read (hFlag "charged" player.charged rfl _), bind_of_read hCard]
  rfl

theorem without_nothing (player : PlayerObservation Float) : player.without .nothing = player :=
  rfl

end PlayerObservation

namespace CycleObservation

/-- The doubles of an observation are finite, and its integers are machine words. -/
structure IsWritable (observation : CycleObservation Float) : Prop where
  ball : ∀ ball, observation.ball = some ball → ball.IsWritable
  players : ∀ player ∈ observation.players, player.IsWritable

/-- The observation with the fields that are left out at their defaults. -/
def without (observation : CycleObservation Float) (cut : Cut) : CycleObservation Float where
  cycle := observation.cycle
  playMode := cut.kept "play_mode" PlayMode.playOn observation.playMode
  ball := cut.kept "ball" none observation.ball
  players := cut.kept "players" []
    ((cut.inField "players").items PlayerObservation.without observation.players)

/-- An observation can be read without what is left out. -/
structure MayLack (cut : Cut) : Prop where
  own : cut.Spares ["cycle"]
  playMode : PlayMode.MayLack (cut.inField "play_mode")
  ball : BallObservation.MayLack (cut.inField "ball")
  players : ∀ i, PlayerObservation.MayLack ((cut.inField "players").inItem i)

theorem decode_without {observation : CycleObservation Float}
    (hWritable : observation.IsWritable) {cut : Cut} (hCut : MayLack cut) :
    decode (observation.encode.without cut) = some (observation.without cut) := by
  have hNames : ["cycle", "play_mode", "ball", "players"].Nodup := by decide
  have hRecord : Record.read? ["cycle", "play_mode", "ball", "players"]
      (observation.encode.without cut) = some (.ofEncoded observation.encode cut) :=
    Record.read?_without observation.encode rfl hNames (List.Sublist.refl _) cut
  have hCycle := Record.required_ofEncoded observation.encode cut "cycle" rfl
    (hCut.own _ (by simp)) (Value.word32?_without _ observation.cycle)
  have hPlayMode := Record.withDefault_ofEncoded observation.encode cut "play_mode" rfl
    (PlayMode.decode_without hCut.playMode observation.playMode)
  have hBall := Record.optional_ofEncoded_leaf observation.encode cut "ball" rfl
    (fun _ _ => rfl) fun ball hBall =>
      BallObservation.decode_without (hWritable.ball ball hBall) hCut.ball
  have hPlayers := Record.withDefault_ofEncoded observation.encode cut "players" rfl
    (Value.list?_without fun player hPlayer i =>
      PlayerObservation.decode_without (hWritable.players player hPlayer) (hCut.players i))
  rw [decode, bind_of_read hRecord, bind_of_read hCycle, bind_of_read (hPlayMode _),
    bind_of_read hBall, bind_of_read (hPlayers _)]
  rfl

theorem without_nothing (observation : CycleObservation Float) :
    observation.without .nothing = observation := by
  have hPlayers := Cut.items_nothing PlayerObservation.without_nothing observation.players
  show { observation with
    players := Cut.nothing.items PlayerObservation.without observation.players } = observation
  rw [hPlayers]

theorem mayLack_nothing : MayLack .nothing where
  own _ _ := rfl
  playMode _ _ := rfl
  ball _ _ := rfl
  players _ _ _ := rfl

end CycleObservation

end SoccerWorld
