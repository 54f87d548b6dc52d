import SoccerWorld.Geometry.Angle
import SoccerWorld.Match.Identity

/-!
# The two frames of the pitch

In the simulator's frame the left side attacks along the first axis.  In the canonical frame our
side does.  The two differ by a half turn when we are the right side, and not at all otherwise, so
one map leads both ways.
-/

namespace SoccerWorld

/-- The side from which the pitch is seen. -/
structure Perspective where
  /-- Our side. -/
  ourSide : Side
deriving DecidableEq, Repr

namespace Perspective

variable {R : Type} [Scalar R]

/-- The perspective of an agent that was told no side. -/
def standard : Perspective :=
  ⟨Side.left⟩

/-- The side that plays against us. -/
def theirSide (view : Perspective) : Side :=
  view.ourSide.opposite

/-- The canonical frame is the simulator's frame after a half turn. -/
def isTurned (view : Perspective) : Bool :=
  view.ourSide = Side.right

/-- A point or vector of one frame in the other. -/
def turnVector (view : Perspective) (v : Vec2 R) : Vec2 R :=
  if view.isTurned then -v else v

/-- A direction of one frame in the other. -/
def turnAngle (view : Perspective) (a : Angle R) : Angle R :=
  if view.isTurned then a.reversed else a

end Perspective

end SoccerWorld
