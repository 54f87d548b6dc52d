import SoccerWorld.Geometry.Vec2

/-!
# Directions in degrees

An `Angle` holds its normal form: above -180 and at most 180 degrees.  Every number has one; the
normal form of an infinite or undefined number is zero.

This file gives the normal form, the arithmetic of angles, their distance on the circle, and the
passage between directions and vectors.
-/

namespace SoccerWorld

/-- Above minus one half turn and at most one half turn. -/
def isNormalDegrees {R : Type} [Scalar R] (degrees : R) : Bool :=
  Scalar.lt (-(180.0)) degrees && Scalar.le degrees 180.0

/-- A direction in normal form. -/
structure Angle (R : Type) [Scalar R] where
  /-- Degrees counted from the direction of the first axis. -/
  degrees : R
  /-- The degrees are the normal form of the direction. -/
  isNormal : isNormalDegrees degrees = true

namespace Angle

variable {R : Type} [Scalar R]

@[ext]
theorem ext {a b : Angle R} (hDegrees : a.degrees = b.degrees) : a = b := by
  cases a
  cases b
  simp only at hDegrees
  subst hDegrees
  rfl

/-- The direction of the first axis. -/
def zero : Angle R where
  degrees := 0.0
  isNormal := by
    simp [isNormalDegrees, Scalar.neg_halfTurn_lt_zero, Scalar.zero_le_halfTurn]

/-- One full turn taken off or added, so that a remainder modulo a turn becomes normal. -/
def foldTurn (remainder : R) : R :=
  if Scalar.lt 180.0 remainder then remainder - 360.0
  else if Scalar.le remainder (-(180.0)) then remainder + 360.0
  else remainder

/-- The direction at `degrees`.  Normal degrees are kept as they are; a folded remainder is
always normal, so the last alternative is never taken by an arithmetic with exact remainders. -/
def ofDegrees (degrees : R) : Angle R :=
  if hKept : isNormalDegrees degrees = true then ⟨degrees, hKept⟩
  else if Scalar.isFinite degrees then
    let folded := foldTurn (Scalar.remainder degrees 360.0)
    if hFolded : isNormalDegrees folded = true then ⟨folded, hFolded⟩ else zero
  else zero

/-- An angle is the direction at its own degrees. -/
@[simp]
theorem ofDegrees_degrees (a : Angle R) : ofDegrees a.degrees = a := by
  simp [ofDegrees, a.isNormal]

/-- The direction in radians. -/
def radians (a : Angle R) : R :=
  a.degrees * Scalar.radiansPerDegree

/-- Distance from the direction of the first axis, in degrees. -/
def size (a : Angle R) : R :=
  Scalar.abs a.degrees

/-- The sum of two directions. -/
def add (a b : Angle R) : Angle R :=
  ofDegrees (a.degrees + b.degrees)

/-- The direction `a` seen from the direction `b`. -/
def sub (a b : Angle R) : Angle R :=
  ofDegrees (a.degrees - b.degrees)

/-- The direction turned the other way. -/
def neg (a : Angle R) : Angle R :=
  ofDegrees (-a.degrees)

instance : Add (Angle R) := ⟨add⟩

instance : Sub (Angle R) := ⟨sub⟩

instance : Neg (Angle R) := ⟨neg⟩

/-- The opposite direction. -/
def reversed (a : Angle R) : Angle R :=
  ofDegrees (a.degrees + 180.0)

/-- Distance of two directions on the circle, in degrees. -/
def distance (a b : Angle R) : R :=
  (a - b).size

/-- The directions are at most `tolerance` degrees apart. -/
def isWithin (a b : Angle R) (tolerance : R) : Bool :=
  Scalar.le (a.distance b) tolerance

/-- Inverse sine in degrees; arguments outside its domain count as its nearest end. -/
def arcsine (x : R) : R :=
  Scalar.asin (Scalar.clamp x (-(1.0)) 1.0) * Scalar.degreesPerRadian

end Angle

namespace Vec2

variable {R : Type} [Scalar R]

/-- Direction in which a vector points; zero for the zero vector. -/
def direction (v : Vec2 R) : Angle R :=
  if Scalar.same v.x 0.0 && Scalar.same v.y 0.0 then Angle.zero
  else Angle.ofDegrees (Scalar.atan2 v.y v.x * Scalar.degreesPerRadian)

/-- The vector of length `length` that points in `direction`. -/
def polar (length : R) (direction : Angle R) : Vec2 R :=
  ⟨length * Scalar.cos direction.radians, length * Scalar.sin direction.radians⟩

/-- Distance of `point` from the infinite line through `origin` along `direction`. -/
def distanceToLine (origin : Vec2 R) (direction : Angle R) (point : Vec2 R) : R :=
  let relative := point - origin
  Scalar.abs
    (relative.x * Scalar.sin direction.radians - relative.y * Scalar.cos direction.radians)

end Vec2

end SoccerWorld
