import SoccerWorld.Numeric.Scalar

/-!
# Offside lines

The offside line runs through the defender second from the goal line, but never behind the halfway
line.  Positions that are not finite do not count; with fewer than two defenders the line is the
halfway line.
-/

namespace SoccerWorld
namespace Offside

variable {R : Type} [Scalar R]

/-- The halfway line. -/
def halfway : R :=
  0.0

/-- The line against an attack toward the positive end. -/
def lineTowardPositive (defenders : List R) : R :=
  match (defenders.filter Scalar.isFinite).mergeSort fun a b => Scalar.precedes b a with
  | _ :: second :: _ => Scalar.maximum second halfway
  | _ => halfway

/-- The line against an attack toward the negative end. -/
def lineTowardNegative (defenders : List R) : R :=
  match (defenders.filter Scalar.isFinite).mergeSort Scalar.precedes with
  | _ :: second :: _ => Scalar.minimum second halfway
  | _ => halfway

end Offside
end SoccerWorld
