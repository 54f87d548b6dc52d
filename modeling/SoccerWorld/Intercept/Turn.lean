import SoccerWorld.Config.Tuning
import SoccerWorld.Geometry.Angle
import SoccerWorld.Locomotion.Basic

/-!
# How many turns a player needs

A player turns until the body points at the target within a tolerance.  A faster body turns less,
and the body slows down from turn to turn.
-/

namespace SoccerWorld
namespace Turning

variable {R : Type} [Scalar R]

/-- Turns made after `made` ones, until the heading error is within the tolerance or `remaining`
more turns have been made. -/
def countFrom (motion : Locomotion R) (moment tolerance : R) :
    (remaining made : Nat) → (error speed : R) → Nat
  | 0, made, _, _ => made
  | remaining + 1, made, error, speed =>
      if Scalar.lt tolerance error then
        countFrom motion moment tolerance remaining (made + 1)
          (error - motion.effectiveTurn moment speed) (speed * motion.type.decay)
      else made

/-- Heading error that needs no turn at a distance: the angle under which the control radius is
seen, but no less than a minimum. -/
def tolerance (search : SearchTuning R) (control distance : R) : R :=
  Scalar.maximum (Angle.arcsine (control / distance)) search.minTurnTolerance

/-- Heading error towards a target.  Close to it the player may dash backward, so an error above a
right angle counts as its supplement. -/
def headingError (search : SearchTuning R) (body : Angle R) (target : Vec2 R) (distance : R) : R :=
  let error := target.direction.distance body
  if Scalar.lt distance search.backDashDist && Scalar.lt 90.0 error then 180.0 - error else error

/-- Turns that a player needs before dashing to a target at `target` from the player; none if the
target is already under control. -/
def count (rules : Rules R) (search : SearchTuning R) (motion : Locomotion R)
    (body : Angle R) (velocity : Vec2 R) (control : R) (target : Vec2 R) (distance : R) : Nat :=
  if Scalar.le distance control then 0
  else
    countFrom motion rules.maxMoment (tolerance search control distance)
      search.maxTurnIterations.toNat 0 (headingError search body target distance) velocity.norm

end Turning
end SoccerWorld
