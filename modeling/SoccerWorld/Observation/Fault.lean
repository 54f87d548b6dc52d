import SoccerWorld.Match.Identity

/-!
# Faults of single records

A faulty player record is left out of the snapshot and its fault is kept there as a diagnostic.
-/

namespace SoccerWorld

/-- Why a player record was left out. -/
inductive RecordFault where
  /-- The number is no uniform number. -/
  | unumOutOfRange (side : Side) (unum : UInt8)
  /-- The player's side is not assigned. -/
  | unassignedSide (unum : Option UInt8)
  /-- An earlier record has the same identity. -/
  | duplicateIdentity (side : Side) (unum : UInt8)
deriving DecidableEq, Repr

namespace RecordFault

/-- The side that the record names, where it names an assigned one. -/
def side? : RecordFault → Option Side
  | unumOutOfRange side _ => some side
  | unassignedSide _ => none
  | duplicateIdentity side _ => some side

/-- The number that the record names. -/
def unum? : RecordFault → Option UInt8
  | unumOutOfRange _ unum => some unum
  | unassignedSide unum => unum
  | duplicateIdentity _ unum => some unum

/-- The text of an optional number. -/
def optionalNumber : Option UInt8 → String
  | none => "None"
  | some n => "Some(" ++ toString n.toNat ++ ")"

/-- The text of a fault. -/
def message : RecordFault → String
  | unumOutOfRange side unum =>
      Unum.rangeMessage unum.toNat ++ " (side " ++ side.name ++ ")"
  | unassignedSide unum =>
      "player observation without an assigned side (unum " ++ optionalNumber unum ++ ")"
  | duplicateIdentity side unum =>
      "duplicate identity " ++ side.name ++ " #" ++ toString unum.toNat ++
        " in one observation"

end RecordFault

end SoccerWorld
