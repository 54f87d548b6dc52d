import SoccerWorld.Numeric.Scalar

/-!
# Plane vectors

Positions and velocities on the pitch, in pitch units and pitch units per cycle.
-/

namespace SoccerWorld

/-- A point or a displacement in the plane. -/
structure Vec2 (R : Type) where
  /-- Along the pitch. -/
  x : R
  /-- Across the pitch. -/
  y : R
deriving DecidableEq

namespace Vec2

variable {R : Type} [Scalar R]

/-- The origin, at the centre spot. -/
def zero : Vec2 R :=
  ⟨0.0, 0.0⟩

instance : Add (Vec2 R) where
  add v w := ⟨v.x + w.x, v.y + w.y⟩

instance : Sub (Vec2 R) where
  sub v w := ⟨v.x - w.x, v.y - w.y⟩

instance : Neg (Vec2 R) where
  neg v := ⟨-v.x, -v.y⟩

/-- Both coordinates multiplied by `factor`. -/
def scale (v : Vec2 R) (factor : R) : Vec2 R :=
  ⟨v.x * factor, v.y * factor⟩

/-- Square of the length. -/
def normSquared (v : Vec2 R) : R :=
  v.x * v.x + v.y * v.y

/-- Euclidean length. -/
def norm (v : Vec2 R) : R :=
  Scalar.sqrt v.normSquared

@[simp]
theorem add_x (v w : Vec2 R) : (v + w).x = v.x + w.x := rfl

@[simp]
theorem add_y (v w : Vec2 R) : (v + w).y = v.y + w.y := rfl

@[simp]
theorem sub_x (v w : Vec2 R) : (v - w).x = v.x - w.x := rfl

@[simp]
theorem sub_y (v w : Vec2 R) : (v - w).y = v.y - w.y := rfl

@[simp]
theorem neg_x (v : Vec2 R) : (-v).x = -v.x := rfl

@[simp]
theorem neg_y (v : Vec2 R) : (-v).y = -v.y := rfl

@[simp]
theorem scale_x (v : Vec2 R) (factor : R) : (v.scale factor).x = v.x * factor := rfl

@[simp]
theorem scale_y (v : Vec2 R) (factor : R) : (v.scale factor).y = v.y * factor := rfl

end Vec2

end SoccerWorld
