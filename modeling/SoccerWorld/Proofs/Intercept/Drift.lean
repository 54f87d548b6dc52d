import SoccerWorld.Proofs.Ball.Continuation
import SoccerWorld.Proofs.Intercept.FeasibleStep
import SoccerWorld.Proofs.Locomotion.Inertia

/-!
# Players that drift to the ball

A moving player may drift into reach of the ball while a lockout lasts.  The tests that leave steps
out measure from where the player stands now and give it full speed in the free cycles only.  They
keep a step to which the player drifts if full speed in those cycles makes up for the drift
(`Reach.CoversDrift`), and then the prediction is no later (`Predictor.predict_le_of_driftsTo`).
That is so whenever the bonus is no smaller than the lockout (`Reach.coversDrift_of_penalty_le`).
A locked player without a bonus may drift to the ball at a step that is left out
(`Predictor.one_lt_predict_drifter`).
-/

namespace SoccerWorld

namespace Reach

variable (reach : Reach ℝ)

/-- At a step after the lockout, inertia alone has brought the player to the ball. -/
structure DriftsTo (ball : Vec2 ℝ) (step : Nat) : Prop where
  penaltyStep_le : reach.player.penaltyStep.toNat ≤ step
  norm_le : (reach.wayToBall ball step).norm ≤ reach.control

/-- How far inertia carries the player within some cycles. -/
noncomputable def drift (step : Nat) : ℝ :=
  (reach.motion.inertiaTravel reach.player.velocity step).norm

/-- The way to the ball is no longer than from where the player stands and the drift together. -/
theorem norm_wayToBall_le (ball : Vec2 ℝ) (step : Nat) :
    (reach.wayToBall ball step).norm ≤
      (ball - reach.player.position).norm + reach.drift step := by
  have hWay : reach.wayToBall ball step = ball - reach.player.position +
      -reach.motion.inertiaTravel reach.player.velocity step := by
    show Vec2.mk (ball.x - (reach.player.position.x + _))
      (ball.y - (reach.player.position.y + _)) =
        ⟨ball.x - reach.player.position.x + -_, ball.y - reach.player.position.y + -_⟩
    rw [Vec2.mk.injEq]
    constructor <;> ring
  rw [hWay, drift, ← Vec2.norm_neg (reach.motion.inertiaTravel reach.player.velocity step)]
  exact Vec2.norm_sum_le _ _

/-- Cycles by a step in which the player counts as free to move. -/
noncomputable def freeCycles (step : Nat) : ℤ :=
  step + reach.bonus - reach.penalty

/-- Full speed in the free cycles makes up for the drift: with the margin, and when rounded down to
whole cycles. -/
structure CoversDrift (step : Nat) : Prop where
  le_margin : reach.drift step ≤
    reach.motion.type.speedMax * reach.freeCycles step + reach.search.reachMargin
  lt_cycle : reach.drift step <
    max reach.motion.type.speedMax (10 ^ 6)⁻¹ * (reach.freeCycles step + 1)

/-- A player of a type that slows down covers its drift if its bonus makes up for the lockout. -/
theorem coversDrift_of_penalty_le (hDecay : 0 ≤ reach.motion.type.decay)
    (hFriction : reach.motion.type.decay < 1)
    (hSpeed : reach.player.velocity.norm ≤ reach.motion.type.speedMax)
    (hMargin : 0 ≤ reach.search.reachMargin) (hBonus : reach.penalty ≤ reach.bonus) (step : Nat) :
    reach.CoversDrift step := by
  have hSpeedMax : 0 ≤ reach.motion.type.speedMax :=
    (Vec2.norm_nonneg reach.player.velocity).trans hSpeed
  have hCycles : (step : ℝ) ≤ reach.freeCycles step := by
    rw [← Int.cast_natCast, Int.cast_le]
    unfold freeCycles
    omega
  have hDrift : reach.drift step ≤ reach.motion.type.speedMax * reach.freeCycles step :=
    calc reach.drift step
      _ ≤ step * reach.player.velocity.norm :=
          reach.motion.norm_inertiaTravel_le hDecay hFriction reach.player.velocity step
      _ ≤ reach.freeCycles step * reach.motion.type.speedMax :=
          mul_le_mul hCycles hSpeed (Vec2.norm_nonneg _) ((Nat.cast_nonneg step).trans hCycles)
      _ = reach.motion.type.speedMax * reach.freeCycles step := mul_comm _ _
  refine ⟨by linarith, ?_⟩
  -- One more cycle at a speed above zero makes the bound strict.
  have hTop : reach.motion.type.speedMax * reach.freeCycles step ≤
      max reach.motion.type.speedMax (10 ^ 6)⁻¹ * reach.freeCycles step :=
    mul_le_mul_of_nonneg_right (le_max_left _ _) ((Nat.cast_nonneg step).trans hCycles)
  have hPositive : 0 < max reach.motion.type.speedMax (10 ^ 6)⁻¹ :=
    lt_max_of_lt_right (by norm_num)
  linarith

variable {reach} {ball : Vec2 ℝ} {step : Nat}

theorem DriftsTo.freeCycles_nonneg (hDrifts : reach.DriftsTo ball step) :
    0 ≤ reach.freeCycles step := by
  have hPenalty := hDrifts.penaltyStep_le
  unfold freeCycles bonus penalty
  omega

/-- The ball is no farther than the drift and the control radius together. -/
theorem DriftsTo.norm_le_drift_add (hDrifts : reach.DriftsTo ball step) :
    (ball - reach.player.position).norm ≤ reach.drift step + reach.control := by
  have hWay : ball - reach.player.position =
      reach.motion.inertiaTravel reach.player.velocity step + reach.wayToBall ball step := by
    show Vec2.mk (ball.x - reach.player.position.x) (ball.y - reach.player.position.y) =
      ⟨_ + (ball.x - (reach.player.position.x + _)), _ + (ball.y - (reach.player.position.y + _))⟩
    rw [Vec2.mk.injEq]
    constructor <;> ring
  rw [hWay]
  exact (Vec2.norm_sum_le _ _).trans (add_le_add_right hDrifts.norm_le _)

/-- Nobody turns towards a ball under control. -/
theorem turns_eq_zero {control : ℝ} {way : Vec2 ℝ} (hNear : way.norm ≤ control) :
    reach.turns control way = 0 := by
  unfold turns Turning.count
  rw [if_pos ((ExactReal.le_eq_true_iff _ _).mpr hNear)]

/-- Drifting to the ball meets every demand of the search if full speed makes up for the drift. -/
theorem DriftsTo.isFeasible (hDrifts : reach.DriftsTo ball step) (hField : reach.isGoalie = false)
    (hCovers : reach.CoversDrift step) : reach.IsFeasible ball step := by
  have hPenalty : reach.penalty ≤ step := Int.ofNat_le.mpr hDrifts.penaltyStep_le
  constructor
  · exact hPenalty
  · intro hGoalie
    rw [hField] at hGoalie
    contradiction
  · have hNorm := hDrifts.norm_le_drift_add
    have hMargin := hCovers.le_margin
    unfold freeCycles at hMargin
    rw [← Vec2.norm_mul_norm, sq]
    refine mul_self_le_mul_self (Vec2.norm_nonneg _) (le_max_of_le_right ?_)
    linarith
  · rw [turns_eq_zero hDrifts.norm_le, Nat.cast_zero, zero_add]
    exact hPenalty
  · exact Or.inl hDrifts.norm_le

/-- The first searched step is not after one to which the player drifts. -/
theorem DriftsTo.firstStep_le (hDrifts : reach.DriftsTo ball step)
    (hCovers : reach.CoversDrift step) {trajectory : Trajectory ℝ}
    (hLine : Vec2.IsOnLine trajectory.origin trajectory.initialVelocity ball) :
    reach.firstStep trajectory ≤ step := by
  have hNorm := hDrifts.norm_le_drift_add
  have hCycle := hCovers.lt_cycle
  have hFree : (0 : ℝ) ≤ reach.freeCycles step := Int.cast_nonneg hDrifts.freeCycles_nonneg
  have hTop : 0 < max reach.motion.type.speedMax (10 ^ 6)⁻¹ :=
    lt_max_of_lt_right (by norm_num)
  obtain ⟨t, rfl⟩ := hLine
  have hPerpendicular := Vec2.distanceToLine_le_norm trajectory.origin trajectory.initialVelocity
    reach.player.position t
  have hCycles : reach.cyclesToLine trajectory < reach.freeCycles step + 1 := by
    rw [cyclesToLine_eq_floor, Int.floor_lt, div_lt_iff₀ hTop, max_lt_iff]
    unfold Trajectory.direction
    push_cast
    constructor
    · linarith
    · exact mul_pos (by linarith) hTop
  have hFirst := firstStep_le_max (reach.cyclesToLine_nonneg trajectory)
  unfold freeCycles at hCycles
  omega

end Reach

namespace Predictor

/-- A field player is predicted no later than a step at which it has drifted to the ball, if full
speed in the free cycles makes up for the drift or the bonus for the lockout. -/
theorem predict_le_of_driftsTo (predictor : Predictor ℝ) (player : Kinematics ℝ)
    (hDecay : 0 ≤ (predictor.types.get player.typeId).type.decay)
    (hFriction : (predictor.types.get player.typeId).type.decay < 1)
    (hSpeed : player.velocity.norm ≤ (predictor.types.get player.typeId).type.speedMax)
    (hMargin : 0 ≤ predictor.search.reachMargin)
    (position velocity : Vec2 ℝ) (rules : Rules ℝ) (flight : FlightLimits ℝ)
    {ball : Vec2 ℝ} {step : Nat}
    (hBall : (Trajectory.compute position velocity rules flight).positionAt? step = some ball)
    (hDrifts : (predictor.reach player false).DriftsTo ball step)
    (hCovers : player.penaltyStep ≤ player.bonusStep ∨
      (predictor.reach player false).CoversDrift step) :
    (predictor.predict player (Trajectory.compute position velocity rules flight) false).toNat ≤
      step := by
  have hCovered : (predictor.reach player false).CoversDrift step := by
    rcases hCovers with hBonus | hCovered
    · exact (predictor.reach player false).coversDrift_of_penalty_le hDecay hFriction hSpeed
        hMargin (Int.ofNat_le.mpr (UInt32.le_iff_toNat_le.mp hBonus)) step
    · exact hCovered
  have hLine := Trajectory.isOnLine_of_mem_compute position velocity rules flight ball
    (List.mem_of_getElem? hBall)
  rw [← Trajectory.origin_compute position velocity rules flight] at hLine
  refine Reach.step_le_of_mem_successes _ _ ?_
  rw [Reach.successes_eq_feasibleSteps]
  exact ⟨hDrifts.firstStep_le hCovered hLine, ball, hBall, hDrifts.isFeasible rfl hCovered⟩

/-- One of theirs runs towards the centre spot, in the last cycle of a lockout. -/
noncomputable def drifter (bonusStep : UInt32) : Kinematics ℝ where
  position := ⟨-3 * 2⁻¹, 0⟩
  velocity := ⟨1, 0⟩
  body := Angle.zero
  typeId := none
  bonusStep := bonusStep
  penaltyStep := 1
  isTeammate := false

/-- The trajectory of a ball that lies on the centre spot. -/
noncomputable def ballAtRest : Trajectory ℝ :=
  Trajectory.compute ⟨0, 0⟩ ⟨0, 0⟩ {} {}

theorem eq_of_positionAt?_ballAtRest {step : Nat} {ball : Vec2 ℝ}
    (hBall : ballAtRest.positionAt? step = some ball) : ball = ⟨0, 0⟩ := by
  obtain ⟨t, rfl⟩ := Trajectory.isOnLine_of_mem_compute _ _ _ _ ball (List.mem_of_getElem? hBall)
  show Vec2.mk (0 + 0 * t) (0 + 0 * t) = ⟨0, 0⟩
  rw [zero_mul, add_zero]

theorem last_ballAtRest : ballAtRest.last = ⟨0, 0⟩ := by
  rw [ballAtRest, ← Vec2.zero_eq, Trajectory.last_compute_zero]

/-- A ball at rest is followed for as long as the least number of samples asks. -/
theorem two_lt_size_ballAtRest : 2 < ballAtRest.size := by
  obtain ⟨last, hEnds⟩ := Trajectory.exists_endsAt_compute ⟨⟨0, 0⟩, ⟨0, 0⟩, 0, 0⟩
    ({} : Rules ℝ) {}
  have hInside : ∀ position : Vec2 ℝ, position = ⟨0, 0⟩ →
      (Trajectory.Limits.ofConfig ({} : Rules ℝ) {}).area.contains position = true := by
    rintro position rfl
    norm_num [Trajectory.Limits.ofConfig, FlightArea.rectangle, Rules.pitch, Rectangle.centered,
      Rectangle.expand, Rectangle.ofCorners, Rectangle.contains, ExactReal.minimum_eq,
      ExactReal.maximum_eq, ExactReal.le_eq_true_iff]
  have hGoesOn : ∀ step < 2, (Trajectory.Limits.ofConfig ({} : Rules ℝ) {}).endingAt?
      ⟨⟨0, 0⟩, ⟨0, 0⟩, 0, 0⟩ step = none := by
    intro step hStep
    refine Trajectory.Limits.ending?_eq_none (hInside _ ?_) ?_ ?_
    · obtain rfl | rfl : step = 0 ∨ step = 1 := by omega
      · rfl
      · show Vec2.mk (0 + 0) (0 + 0) = ⟨0, 0⟩
        rw [add_zero]
    · show step + 1 < 10
      omega
    · show step + 1 < 100
      omega
  have hLast : 2 ≤ last := by
    by_contra hShort
    have hEnding := hEnds.ends
    rw [hGoesOn last (by omega)] at hEnding
    contradiction
  have hSize : ballAtRest.size = last + 1 := hEnds.size_eq
  omega

theorem positionAt?_one_ballAtRest : ballAtRest.positionAt? 1 = some ⟨0, 0⟩ := by
  have hLong : 1 < ballAtRest.positions.length := Nat.lt_of_succ_lt two_lt_size_ballAtRest
  have hAt : ballAtRest.positionAt? 1 = some _ := List.getElem?_eq_getElem hLong
  rw [hAt, eq_of_positionAt?_ballAtRest hAt]

theorem norm_velocity_drifter (bonusStep : UInt32) : (drifter bonusStep).velocity.norm ≤
    (homogeneous.types.get (drifter bonusStep).typeId).type.speedMax := by
  show Real.sqrt (1 * 1 + 0 * 0) ≤ 1.05
  rw [Real.sqrt_le_left (by norm_num)]
  norm_num

/-- In the next cycle the player has run up to the ball. -/
theorem driftsTo_drifter (bonusStep : UInt32) :
    (homogeneous.reach (drifter bonusStep) false).DriftsTo ⟨0, 0⟩ 1 := by
  have hControl : (homogeneous.reach (drifter bonusStep) false).control = 0.7 := rfl
  refine ⟨Nat.le_refl 1, ?_⟩
  unfold Reach.wayToBall Locomotion.inertiaPoint
  rw [Locomotion.inertiaTravel_one, Vec2.norm_eq, hControl, Real.sqrt_le_left (by norm_num)]
  norm_num [reach, drifter]

theorem predict_drifter_le_one :
    0 ≤ (homogeneous.types.get (drifter 1).typeId).type.decay ∧
      (homogeneous.types.get (drifter 1).typeId).type.decay < 1 ∧
      (drifter 1).velocity.norm ≤ (homogeneous.types.get (drifter 1).typeId).type.speedMax ∧
      0 ≤ homogeneous.search.reachMargin ∧
      ballAtRest.positionAt? 1 = some ⟨0, 0⟩ ∧
      (homogeneous.reach (drifter 1) false).DriftsTo ⟨0, 0⟩ 1 ∧
      (drifter 1).penaltyStep ≤ (drifter 1).bonusStep ∧
      (homogeneous.predict (drifter 1) ballAtRest false).toNat ≤ 1 := by
  have hDecay : 0 ≤ (homogeneous.types.get (drifter 1).typeId).type.decay := by
    show (0 : ℝ) ≤ 0.4
    norm_num
  have hFriction : (homogeneous.types.get (drifter 1).typeId).type.decay < 1 := by
    show (0.4 : ℝ) < 1
    norm_num
  have hMargin : 0 ≤ homogeneous.search.reachMargin := by
    show (0 : ℝ) ≤ 0.5
    norm_num
  have hBonus : (drifter 1).penaltyStep ≤ (drifter 1).bonusStep := UInt32.le_refl 1
  exact ⟨hDecay, hFriction, norm_velocity_drifter 1, hMargin, positionAt?_one_ballAtRest,
    driftsTo_drifter 1, hBonus,
    predict_le_of_driftsTo homogeneous (drifter 1) hDecay hFriction (norm_velocity_drifter 1)
      hMargin ⟨0, 0⟩ ⟨0, 0⟩ {} {} positionAt?_one_ballAtRest (driftsTo_drifter 1)
      (Or.inl hBonus)⟩

/-- Without a bonus the player counts as out of reach in the cycle in which it runs up to the
ball. -/
theorem one_lt_predict_drifter :
    (drifter 0).velocity.norm ≤ (homogeneous.types.get (drifter 0).typeId).type.speedMax ∧
      ballAtRest.positionAt? 1 = some ⟨0, 0⟩ ∧
      (homogeneous.reach (drifter 0) false).DriftsTo ⟨0, 0⟩ 1 ∧
      1 < (homogeneous.predict (drifter 0) ballAtRest false).toNat := by
  refine ⟨norm_velocity_drifter 0, positionAt?_one_ballAtRest, driftsTo_drifter 0, ?_⟩
  have hSize := two_lt_size_ballAtRest
  rcases (homogeneous.reach (drifter 0) false).step_cases ballAtRest with
    ⟨hControls, -⟩ | ⟨-, found, hLeast, hStep⟩ | ⟨-, -, hStep⟩
  · -- A player in a lockout does not control the ball.
    have hFree := ((Reach.controlsNow_eq_true_iff _ _).mp hControls).penaltyStep_eq
    exact absurd hFree (by decide)
  · have hFound := hLeast.1
    rw [Reach.successes_eq_feasibleSteps] at hFound
    obtain ⟨-, ball, hBall, hFeasible⟩ := hFound
    obtain rfl := eq_of_positionAt?_ballAtRest hBall
    have hPenalty : (1 : ℤ) ≤ found := hFeasible.penalty_le
    have hWord := Word.toNat_ofInt found
    have hLater : found ≠ 1 := by
      rintro rfl
      have hSpeed := hFeasible.normSquared_le
      change (0 - -3 * 2⁻¹) * (0 - -3 * 2⁻¹) + (0 - 0) * (0 - 0) ≤
        (max 0 (0.7 + 1.05 * (((1 : ℕ) + 0 - 1 : ℤ) : ℝ) + 0.5)) ^ 2 at hSpeed
      norm_num at hSpeed
    unfold predict
    rw [hStep]
    omega
  · have hResting := (homogeneous.reach (drifter 0) false).lastStep_le_restingStep ballAtRest
    unfold Trajectory.lastStep at hResting
    unfold predict
    rw [hStep]
    omega

end Predictor
end SoccerWorld
