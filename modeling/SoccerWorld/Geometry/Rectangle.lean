import SoccerWorld.Geometry.Vec2

/-!
# Upright rectangles

The pitch, the penalty areas and the area in which a ball is followed.  Edges count as inside.
-/

namespace SoccerWorld

/-- A rectangle with edges along the axes. -/
structure Rectangle (R : Type) where
  /-- Least first coordinate. -/
  minX : R
  /-- Least second coordinate. -/
  minY : R
  /-- Greatest first coordinate. -/
  maxX : R
  /-- Greatest second coordinate. -/
  maxY : R
deriving DecidableEq

namespace Rectangle

variable {R : Type} [Scalar R]

/-- The rectangle with two given opposite corners. -/
def ofCorners (x₁ y₁ x₂ y₂ : R) : Rectangle R :=
  ⟨Scalar.minimum x₁ x₂, Scalar.minimum y₁ y₂, Scalar.maximum x₂ x₁, Scalar.maximum y₂ y₁⟩

/-- The rectangle around the origin with the given half sides. -/
def centered (halfLength halfWidth : R) : Rectangle R :=
  ofCorners (-halfLength) (-halfWidth) halfLength halfWidth

/-- The point lies inside or on an edge. -/
def contains (area : Rectangle R) (p : Vec2 R) : Bool :=
  Scalar.le area.minX p.x && Scalar.le p.x area.maxX &&
    (Scalar.le area.minY p.y && Scalar.le p.y area.maxY)

/-- Every edge moved outward by `margin`. -/
def expand (area : Rectangle R) (margin : R) : Rectangle R :=
  ofCorners (area.minX - margin) (area.minY - margin) (area.maxX + margin) (area.maxY + margin)

end Rectangle

end SoccerWorld
