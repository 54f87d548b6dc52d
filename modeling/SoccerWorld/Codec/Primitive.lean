import SoccerWorld.Document.Record
import SoccerWorld.Geometry.Angle
import SoccerWorld.Geometry.Rectangle

/-!
# Numbers, vectors and angles in documents

Machine words are integers in their range; a vector is the list of its coordinates; an angle is its
degrees, normalised when read.  Doubles that are not finite are written as null.
-/

namespace SoccerWorld

namespace Value

/-- A word of 8 bits. -/
def word8? (v : Value) : Option UInt8 :=
  (v.naturalBelow? 256).map UInt8.ofNat

/-- A word of 32 bits. -/
def word32? (v : Value) : Option UInt32 :=
  (v.naturalBelow? 4294967296).map UInt32.ofNat

/-- A size of 64 bits. -/
def size? (v : Value) : Option Nat :=
  v.naturalBelow? 18446744073709551616

/-- A signed integer of 32 bits. -/
def int32? (v : Value) : Option Int :=
  v.integer?.filter fun n => -2147483648 ≤ n && n < 2147483648

/-- The value of a word of 8 bits. -/
def ofWord8 (n : UInt8) : Value :=
  ofNat n.toNat

/-- The value of a word of 32 bits. -/
def ofWord32 (n : UInt32) : Value :=
  ofNat n.toNat

end Value

/-- The list of the coordinates. -/
def Vec2.encode (v : Vec2 Float) : Value :=
  .array [.ofFloat v.x, .ofFloat v.y]

/-- A vector from the list of its two coordinates. -/
def Vec2.decode (v : Value) : Option (Vec2 Float) :=
  match v.items? with
  | some [x, y] => do
      let x ← x.real?
      let y ← y.real?
      pure ⟨x, y⟩
  | _ => none

/-- The degrees. -/
def Angle.encode (a : Angle Float) : Value :=
  .ofFloat a.degrees

/-- The direction at some degrees. -/
def Angle.decode (v : Value) : Option (Angle Float) :=
  v.real?.map Angle.ofDegrees

end SoccerWorld
