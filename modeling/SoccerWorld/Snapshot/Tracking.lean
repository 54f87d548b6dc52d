import SoccerWorld.Locomotion.Registry
import SoccerWorld.Snapshot.Basic

/-!
# From records to players

The records of one cycle are checked in order.  A record is accepted if its side is assigned, its
number is absent or a uniform number, and no record accepted before has its identity.  An accepted
record continues the player of its identity or begins a new one; identified players that no record
names roll on, for a limited time.
-/

namespace SoccerWorld

/-- A record that passed the checks, with its uniform number. -/
structure AcceptedRecord (R : Type) [Scalar R] where
  /-- The checked number; absent if unreadable. -/
  unum : Option Unum
  /-- The record. -/
  record : PlayerObservation R

namespace AcceptedRecord

variable {R : Type} [Scalar R]

/-- The identity that the record names. -/
def identity? (accepted : AcceptedRecord R) : Option Identity :=
  accepted.unum.map fun unum => ⟨accepted.record.side, unum⟩

end AcceptedRecord

namespace PlayerObservation

variable {R : Type} [Scalar R]

/-- The uniform number of a record, or its fault, when the identities in `taken` are used up. -/
def check (record : PlayerObservation R) (taken : List Identity) :
    Except RecordFault (Option Unum) :=
  if !record.side.isAssigned then .error (.unassignedSide record.unum)
  else
    match record.unum with
    | none => .ok none
    | some raw =>
        match Unum.ofNat? raw.toNat with
        | none => .error (.unumOutOfRange record.side raw)
        | some unum =>
            if ⟨record.side, unum⟩ ∈ taken then .error (.duplicateIdentity record.side raw)
            else .ok (some unum)

/-- The record in the other frame, where a perspective changes frames. -/
def turn (record : PlayerObservation R) (view : Perspective) : PlayerObservation R :=
  { record with
    position := view.turnVector record.position
    velocity := record.velocity.map view.turnVector
    body := record.body.map view.turnAngle
    face := record.face.map view.turnAngle
    pointing := record.pointing.map view.turnAngle }

/-- The accepted records and the faults of the others, each in order, when the identities in
`taken` are used up. -/
def sift (taken : List Identity) :
    List (PlayerObservation R) → List (AcceptedRecord R) × List RecordFault
  | [] => ([], [])
  | record :: rest =>
      match record.check taken with
      | .error fault =>
          let (accepted, faults) := sift taken rest
          (accepted, fault :: faults)
      | .ok unum =>
          let entry : AcceptedRecord R := ⟨unum, record⟩
          let (accepted, faults) := sift (entry.identity?.toList ++ taken) rest
          (entry :: accepted, faults)

end PlayerObservation

namespace Tracking

variable {R : Type} [Scalar R]

/-- The player of one identity after a record that names it. -/
def observeIdentity (known : Option (Player R)) (unum : Unum) (record : PlayerObservation R) :
    Player R :=
  match known with
  | some player => player.observe record
  | none => Player.fresh (some unum) record

/-- The player of one identity after a cycle without a record of it; absent once it was unseen for
more than `maxUnseen` cycles. -/
def missIdentity (types : TypeRegistry R) (maxUnseen : UInt32) (player : Player R) :
    Option (Player R) :=
  if maxUnseen < Word.succ player.ages.seen then none
  else some (player.carry (types.get player.typeId))

/-- The player of an accepted record, already turned into the canonical frame. -/
def enlist (previous : Option (Snapshot R)) (accepted : AcceptedRecord R) : Player R :=
  match accepted.unum with
  | none => Player.fresh none accepted.record
  | some unum =>
      observeIdentity (previous.bind fun snapshot => snapshot.find? ⟨accepted.record.side, unum⟩)
        unum accepted.record

/-- The identified players of a list that roll on, because no identity in `seen` is theirs. -/
def carryUnseen (types : TypeRegistry R) (maxUnseen : UInt32) (seen : List Identity)
    (players : List (Player R)) : List (Player R) :=
  players.filterMap fun player =>
    match player.identity? with
    | none => none
    | some identity => if identity ∈ seen then none else missIdentity types maxUnseen player

/-- Players after one cycle: those of accepted records in the order of the records, then those that
roll on in the order of the previous snapshot. -/
def players (types : TypeRegistry R) (maxUnseen : UInt32) (view : Perspective)
    (previous : Option (Snapshot R)) (accepted : List (AcceptedRecord R)) : List (Player R) :=
  let observed := accepted.map fun entry =>
    enlist previous { entry with record := entry.record.turn view }
  -- A record that was left out does not keep its identity's player from rolling on.
  let seen := accepted.filterMap AcceptedRecord.identity?
  let carried :=
    match previous with
    | none => []
    | some snapshot => carryUnseen types maxUnseen seen snapshot.players
  observed ++ carried

/-- The ball after one cycle: as observed, else rolling on, else unknown. -/
def ball (decay : R) (view : Perspective) (previous : Option (Snapshot R))
    (observed : Option (BallObservation R)) : Ball R :=
  match observed, previous with
  | some seen, _ => Ball.observed ⟨view.turnVector seen.position, view.turnVector seen.velocity⟩
  | none, some snapshot => snapshot.ball.propagated decay
  | none, none => Ball.unknown

end Tracking

end SoccerWorld
