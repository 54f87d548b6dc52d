import SoccerWorld.Locomotion.Basic
import SoccerWorld.Observation.Basic

/-!
# Tracked players

The record of one player as of one cycle.  A record begins with an observation (`Player.fresh`),
takes over what later observations supply (`Player.observe`), and rolls on by inertia while the
player is unseen (`Player.carry`).  What an observation leaves out keeps its value and grows older.
-/

namespace SoccerWorld

/-- Cycles since each part of a record was last supplied. -/
structure Ages where
  /-- Age of the position. -/
  pos : UInt32
  /-- Age of the velocity. -/
  vel : UInt32
  /-- Age of the body direction. -/
  body : UInt32
  /-- Age of the face direction. -/
  face : UInt32
  /-- Cycles since the player was in any observation. -/
  seen : UInt32
deriving DecidableEq, Repr

namespace Ages

/-- Everything was supplied this cycle. -/
def zero : Ages :=
  ⟨0, 0, 0, 0, 0⟩

/-- The ages one cycle later. -/
def older (ages : Ages) : Ages where
  pos := Word.succ ages.pos
  vel := Word.succ ages.vel
  body := Word.succ ages.body
  face := Word.succ ages.face
  seen := Word.succ ages.seen

/-- The ages one cycle later, in which an observation supplied a position and perhaps more. -/
def observe {R : Type} [Scalar R] (ages : Ages) (record : PlayerObservation R) : Ages where
  pos := 0
  vel := if record.velocity.isSome then 0 else Word.succ ages.vel
  body := if record.body.isSome then 0 else Word.succ ages.body
  face := if record.face.isSome then 0 else Word.succ ages.face
  seen := 0

end Ages

/-- The record of one player. -/
structure Player (R : Type) [Scalar R] where
  /-- The player's side. -/
  side : Side
  /-- The player's uniform number, if known. -/
  unum : Option Unum
  /-- The player was recognised as a goalie at some time. -/
  isGoalie : Bool
  /-- The player's type, if known. -/
  typeId : Option Int
  /-- Where the player is. -/
  position : Vec2 R
  /-- How far the player moves per cycle. -/
  velocity : Vec2 R
  /-- Direction of the body. -/
  body : Angle R
  /-- Direction of the face. -/
  face : Angle R
  /-- Direction of the raised arm. -/
  pointDir : Option (Angle R)
  /-- Consecutive observations with a raised arm. -/
  pointingCycles : UInt32
  /-- The player kicked in this cycle. -/
  kicking : Bool
  /-- Cycles since a tackle began, the first one included; zero without a tackle. -/
  tackleCycles : UInt32
  /-- Cycles since a foul was charged, the first one included; zero without a foul. -/
  chargedCycles : UInt32
  /-- The card that the player was last shown. -/
  card : Card
  /-- Ages of the parts of this record. -/
  ages : Ages
  /-- Cycles until the player can control the ball, if evaluated. -/
  reachStep : Option UInt32

/-- The count of cycles for which a flag has been up, one cycle later. -/
def streak (count : UInt32) (up : Bool) : UInt32 :=
  if up then Word.succ count else 0

namespace Player

variable {R : Type} [Scalar R]

/-- The record after an observation: what it supplies is new, the rest is one cycle older. -/
def observe (player : Player R) (record : PlayerObservation R) : Player R :=
  { player with
    isGoalie := player.isGoalie || record.isGoalie
    typeId := record.typeId.or player.typeId
    position := record.position
    velocity := record.velocity.getD player.velocity
    body := record.body.getD player.body
    face := record.face.getD player.face
    pointDir := record.pointing
    pointingCycles := streak player.pointingCycles record.pointing.isSome
    kicking := record.kicking
    tackleCycles := streak player.tackleCycles record.tackling
    chargedCycles := streak player.chargedCycles record.charged
    card := record.card.getD player.card
    ages := player.ages.observe record
    reachStep := none }

/-- A player at rest of whom nothing but side and number is known. -/
def blank (side : Side) (unum : Option Unum) (position : Vec2 R) : Player R where
  side := side
  unum := unum
  isGoalie := false
  typeId := none
  position := position
  velocity := Vec2.zero
  body := Angle.zero
  face := Angle.zero
  pointDir := none
  pointingCycles := 0
  kicking := false
  tackleCycles := 0
  chargedCycles := 0
  card := Card.none
  ages := Ages.zero
  reachStep := none

/-- The record that begins with an observation. -/
def fresh (unum : Option Unum) (record : PlayerObservation R) : Player R :=
  (blank record.side unum record.position).observe record

/-- The record one cycle later, for a player that was not seen. -/
def carry (player : Player R) (motion : Locomotion R) : Player R :=
  { player with
    position := motion.inertiaPoint player.position player.velocity 1
    velocity := player.velocity.scale motion.type.decay
    kicking := false
    tackleCycles := streak player.tackleCycles (player.tackleCycles ≠ 0)
    chargedCycles := streak player.chargedCycles (player.chargedCycles ≠ 0)
    ages := player.ages.older
    reachStep := none }

/-- Side and uniform number, where the number is known. -/
def identity? (player : Player R) : Option Identity :=
  player.unum.map fun unum => ⟨player.side, unum⟩

/-- A tackle began in this cycle. -/
def tackleStarted (player : Player R) : Bool :=
  player.tackleCycles = 1

/-- Cycles left of a freeze of `total` cycles after `elapsed` of them; zero if none began. -/
def freezeLeft (total elapsed : UInt32) : UInt32 :=
  if elapsed = 0 then 0 else Word.sub total elapsed

/-- Cycles for which the player still cannot move. -/
def lockoutRemaining (player : Player R) (tackleCycles foulCycles : UInt32) : UInt32 :=
  max (freezeLeft tackleCycles player.tackleCycles) (freezeLeft foulCycles player.chargedCycles)

@[simp]
theorem observe_side (player : Player R) (record : PlayerObservation R) :
    (player.observe record).side = player.side := rfl

@[simp]
theorem observe_unum (player : Player R) (record : PlayerObservation R) :
    (player.observe record).unum = player.unum := rfl

@[simp]
theorem fresh_side (unum : Option Unum) (record : PlayerObservation R) :
    (fresh unum record).side = record.side := rfl

@[simp]
theorem fresh_unum (unum : Option Unum) (record : PlayerObservation R) :
    (fresh unum record).unum = unum := rfl

@[simp]
theorem carry_side (player : Player R) (motion : Locomotion R) :
    (player.carry motion).side = player.side := rfl

@[simp]
theorem carry_unum (player : Player R) (motion : Locomotion R) :
    (player.carry motion).unum = player.unum := rfl

end Player

end SoccerWorld
