import SoccerWorld.Config.PlayerType
import SoccerWorld.Config.Rules
import SoccerWorld.Geometry.Vec2

/-!
# How a player moves

A player type under the rules of a match gives the distances that full-power dashes cover, the
travel by inertia, and the effect of a turn.

The dash table holds the distances covered after 1, 2, …, 50 dashes from rest; a longer way is
extrapolated at the top speed that dashes reach.
-/

namespace SoccerWorld

/-- A player type together with what follows from it under the rules of a match. -/
structure Locomotion (R : Type) [Scalar R] where
  /-- The type itself. -/
  type : PlayerType R
  /-- Greatest speed that dashes reach. -/
  topSpeed : R
  /-- Distance covered after each of the first full-power dashes from rest. -/
  dashDistances : List R

namespace Locomotion

variable {R : Type} [Scalar R]

/-- Number of dashes in the table. -/
def tableLength : Nat :=
  50

/-- Distances after each of the next dashes, from a speed and a distance already covered. -/
def dashTable (acceleration speedMax decay : R) : Nat → R → R → List R
  | 0, _, _ => []
  | remaining + 1, speed, covered =>
      let reached := Scalar.minimum (speed + acceleration) speedMax
      let total := covered + reached
      total :: dashTable acceleration speedMax decay remaining (reached * decay) total

@[simp]
theorem length_dashTable (acceleration speedMax decay speed covered : R) (n : Nat) :
    (dashTable acceleration speedMax decay n speed covered).length = n := by
  induction n generalizing speed covered with
  | zero => rfl
  | succ n ih => simp [dashTable, ih]

/-- Speed that one full-power dash adds. -/
def acceleration (type : PlayerType R) (rules : Rules R) : R :=
  rules.maxDashPower * type.dashPowerRate * type.effortMax

/-- The motion of a player type under the rules of a match. -/
def ofType (type : PlayerType R) (rules : Rules R) : Locomotion R where
  type := type
  topSpeed :=
    if Scalar.lt type.decay 1.0 then
      Scalar.minimum type.speedMax (acceleration type rules / (1.0 - type.decay))
    else type.speedMax
  dashDistances :=
    dashTable (acceleration type rules) type.speedMax type.decay tableLength 0.0 0.0

/-- Distance at which the player controls the ball: a goalie catches, others kick. -/
def controlRadius (motion : Locomotion R) (goalie : Bool) : R :=
  if goalie then motion.type.catchableRadius else motion.type.kickableRadius

/-- Degrees by which a turn of a given moment rotates a body at a given speed. -/
def effectiveTurn (motion : Locomotion R) (moment speed : R) : R :=
  moment / (1.0 + motion.type.inertiaMoment * speed)

/-- Exponents are cut off here. -/
def maxExponent : Nat :=
  2147483647

/-- The least distance from one at which a decay counts as different from one. -/
def decayResolution : R :=
  1.0 / 4503599627370496.0

/-- Displacement after `n` cycles of passive motion: the sum of a geometric series. -/
def inertiaTravel (motion : Locomotion R) (velocity : Vec2 R) (n : Nat) : Vec2 R :=
  let decay := motion.type.decay
  if n = 0 then Vec2.zero
  else if Scalar.lt (Scalar.abs (1.0 - decay)) decayResolution then
    velocity.scale (Scalar.ofInt n)
  else
    velocity.scale ((1.0 - Scalar.power decay (min n maxExponent)) / (1.0 - decay))

/-- Position after `n` cycles of passive motion. -/
def inertiaPoint (motion : Locomotion R) (position velocity : Vec2 R) (n : Nat) : Vec2 R :=
  position + motion.inertiaTravel velocity n

/-- Number of entries that pass `test`, found by halving a stretch of `size` entries from `base`;
on a list where passing entries come first it is their count. -/
def splitPointFrom (xs : List R) (test : R → Bool) (base size : Nat) : Nat :=
  if size ≤ 1 then
    match xs[base]? with
    | some x => if test x then base + 1 else base
    | none => base
  else
    let half := size / 2
    let next :=
      match xs[base + half]? with
      | some x => if test x then base + half else base
      | none => base
    splitPointFrom xs test next (size - half)
termination_by size
decreasing_by omega

/-- Number of entries at the front of a list that pass `test`. -/
def splitPoint (xs : List R) (test : R → Bool) : Nat :=
  splitPointFrom xs test 0 xs.length

/-- Full-power dashes needed to cover `dist` from rest.  Beyond the table the sum of the table's
length and of the dashes that are added may be too large for a word, and then it wraps. -/
def cyclesToReach (motion : Locomotion R) (dist : R) : UInt32 :=
  if Scalar.le dist 0.0 then 0
  else
    let covered := splitPoint motion.dashDistances fun d => Scalar.lt d (dist - 1.0e-9)
    if covered < motion.dashDistances.length then UInt32.ofNat covered + 1
    else
      let last := motion.dashDistances.getLast?.getD 0.0
      let rest := Scalar.ceiling ((dist - last) / Scalar.maximum motion.topSpeed 1.0e-6)
      UInt32.ofNat motion.dashDistances.length + Word.ofInt rest

end Locomotion

end SoccerWorld
