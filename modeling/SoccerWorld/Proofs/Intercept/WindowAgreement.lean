import Mathlib.Data.Real.Basic
import SoccerWorld.Proofs.Ball.TrajectoryShape
import SoccerWorld.Proofs.Intercept.Approach

/-!
# Windows of any length agree

A ball at rest is searched for at one place, and its resting place is the same.  So a player that
stands still arrives at the same time (`Reach.arrival`) wherever the window ends.  The search finds
that time if it lies in the window (`Reach.IsStill.step_eq_arrival`), and the estimate beyond the
window falls short of it by the bonus at most (`Reach.arrival_sub_bonus_le_restingEstimate`).  Two
windows make no more difference than that, if a word can hold the count of dashes
(`Predictor.keepsToArrival_predict`).  They do make a difference to a player so far away that no
word can (`Predictor.windows_disagree_about_receiverAt`).
-/

namespace SoccerWorld

namespace Reach

/-! ## The estimate and the time of arrival -/

section Estimate

theorem arrival_le_of_succeedsAt {reach : Reach ℝ} {ball : Vec2 ℝ} {step : Nat}
    (hSucceeds : reach.succeedsAt ball step = true) : reach.arrival ball step ≤ step := by
  simp only [succeedsAt, Bool.and_eq_true] at hSucceeds
  exact (isAchievable_iff_arrival_le hSucceeds.1 step).mp hSucceeds.2.2

/-- Where the search succeeds, full speed brings the player to the ball. -/
theorem norm_le_of_succeedsAt {reach : Reach ℝ} {ball : Vec2 ℝ} {step : Nat}
    (hSucceeds : reach.succeedsAt ball step = true) :
    (ball - reach.player.position).norm ≤ max 0 (reach.control +
      reach.motion.type.speedMax * ((step + reach.bonus - reach.penalty : ℤ) : ℝ) +
        reach.search.reachMargin) := by
  have hFeasible := (reach.succeedsAt_eq_true_iff ball step).mp hSucceeds
  exact (Real.sqrt_le_left (le_max_left _ _)).mpr hFeasible.normSquared_le

variable (reach : Reach ℝ) (trajectory : Trajectory ℝ)

theorem arrival_nonneg (ball : Vec2 ℝ) (step : Nat) : 0 ≤ reach.arrival ball step := by
  have hPenalty : 0 ≤ reach.penalty := Int.natCast_nonneg _
  unfold arrival
  omega

/-- The estimate takes off no more than the bonus. -/
theorem arrival_sub_bonus_le_restingEstimate :
    reach.arrival trajectory.last reach.search.fallbackSteps.toNat - reach.bonus ≤
      reach.restingEstimate trajectory := by
  have hBonus : 0 ≤ reach.bonus := Int.natCast_nonneg _
  rw [restingEstimate_eq_sub, arrival]
  omega

theorem restingEstimate_le_arrival :
    reach.restingEstimate trajectory ≤
      reach.arrival trajectory.last reach.search.fallbackSteps.toNat := by
  have hBonus : 0 ≤ reach.bonus := Int.natCast_nonneg _
  rw [restingEstimate_eq_sub, arrival]
  omega

end Estimate

/-! ## A player that stands still, and a ball at rest -/

/-- A predicted step keeps to the time of arrival, as far as a word can count it: inside the window
it is that time, and beyond the window it may be less by up to the bonus. -/
structure KeepsToArrival (reach : Reach ℝ) (ball : Vec2 ℝ) (trajectory : Trajectory ℝ)
    (result : UInt32) : Prop where
  le_result : min (reach.arrival ball 0 - reach.bonus) 4294967295 ≤ result.toNat
  result_le : reach.dashCountTo ball 0 < 4294967296 → result.toNat ≤ reach.arrival ball 0
  result_eq : reach.dashCountTo ball 0 < 4294967296 → reach.arrival ball 0 < trajectory.size →
    result = Word.ofInt (reach.arrival ball 0)

namespace IsStill

variable {reach : Reach ℝ} (hStill : reach.IsStill) {ball : Vec2 ℝ}

include hStill

theorem arrival_eq (step : Nat) : reach.arrival ball step = reach.arrival ball 0 := by
  simp only [arrival, turnsTo, dashesTo, hStill.wayToBall_eq]

variable (rules : Rules ℝ) (flight : FlightLimits ℝ)

theorem restingEstimate_bounds (ball : Vec2 ℝ) :
    reach.arrival ball 0 - reach.bonus ≤
        reach.restingEstimate (Trajectory.compute ball Vec2.zero rules flight) ∧
      reach.restingEstimate (Trajectory.compute ball Vec2.zero rules flight) ≤
        reach.arrival ball 0 := by
  have hLow := reach.arrival_sub_bonus_le_restingEstimate
    (Trajectory.compute ball Vec2.zero rules flight)
  have hHigh := reach.restingEstimate_le_arrival (Trajectory.compute ball Vec2.zero rules flight)
  rw [Trajectory.last_compute_zero, hStill.arrival_eq] at hLow hHigh
  exact ⟨hLow, hHigh⟩

/-- What the search finds is no earlier than the arrival. -/
theorem arrival_le_of_mem_successes {found : Nat}
    (hFound : found ∈ reach.successes (Trajectory.compute ball Vec2.zero rules flight)) :
    reach.arrival ball 0 ≤ found := by
  obtain ⟨-, point, hPoint, hSucceeds⟩ := hFound
  obtain rfl := Trajectory.eq_of_mem_compute_zero ball rules flight (List.mem_of_getElem? hPoint)
  rw [← hStill.arrival_eq found]
  exact arrival_le_of_succeedsAt hSucceeds

/-- No window gives a step before the estimate. -/
theorem restingEstimate_le_step (hControl : reach.controlsNow ball = false) :
    min (reach.restingEstimate (Trajectory.compute ball Vec2.zero rules flight)) 4294967295 ≤
      (reach.step (Trajectory.compute ball Vec2.zero rules flight)).toNat := by
  have hEstimate := (hStill.restingEstimate_bounds rules flight ball).2
  rcases reach.step_cases (Trajectory.compute ball Vec2.zero rules flight) with
    ⟨hNow, -⟩ | ⟨-, found, hLeast, hStep⟩ | ⟨-, -, hStep⟩
  · rw [Trajectory.origin_compute, hControl] at hNow
    contradiction
  · have hArrival := hStill.arrival_le_of_mem_successes rules flight hLeast.1
    have hWord := Word.toNat_ofInt found
    rw [hStep]
    omega
  · have hResting := reach.toNat_restingStep (Trajectory.compute ball Vec2.zero rules flight)
    rw [hStep]
    omega

section Fits

variable (hAllowed : reach.isAllowedAt ball = true)
  (hFits : reach.dashCountTo ball 0 < 4294967296)

include hAllowed hFits

/-- Neither test that skips steps leaves out the arrival. -/
theorem mem_successes_of_arrival_eq {time : Nat} (hTime : reach.arrival ball 0 = time)
    (hInside : time < (Trajectory.compute ball Vec2.zero rules flight).size) :
    time ∈ reach.successes (Trajectory.compute ball Vec2.zero rules flight) := by
  have hAt : (Trajectory.compute ball Vec2.zero rules flight).positionAt? time = some ball := by
    have hEntry := List.getElem?_eq_getElem hInside
    rw [Trajectory.positionAt?, hEntry,
      Trajectory.eq_of_mem_compute_zero ball rules flight (List.mem_of_getElem? hEntry)]
  have hDashes : reach.motion.dashCount
      ((ball - reach.player.position).norm - reach.control) < 4294967296 := by
    rw [dashCountTo, hStill.wayToBall_eq, restingControl_of_isAllowedAt hAllowed] at hFits
    exact hFits
  have hAchievable : reach.isAchievable ball time = true := by
    rw [isAchievable_iff_arrival_le hAllowed, hStill.arrival_eq, hTime]
  have hLine : Vec2.IsOnLine (Trajectory.compute ball Vec2.zero rules flight).origin
      (Trajectory.compute ball Vec2.zero rules flight).initialVelocity ball := by
    rw [Trajectory.origin_compute]
    exact Vec2.isOnLine_origin ball _
  refine ⟨hStill.firstStep_le hLine hDashes hAchievable, ball, hAt, ?_⟩
  rw [succeedsAt, hAllowed, hStill.not_isOutOfReach hDashes hAchievable, hAchievable]
  rfl

/-- Inside the window the predicted step is the time of arrival. -/
theorem step_eq_arrival (hControl : reach.controlsNow ball = false)
    (hInside : reach.arrival ball 0 < (Trajectory.compute ball Vec2.zero rules flight).size) :
    reach.step (Trajectory.compute ball Vec2.zero rules flight) =
      Word.ofInt (reach.arrival ball 0) := by
  obtain ⟨time, hTime⟩ := Int.eq_ofNat_of_zero_le (reach.arrival_nonneg ball 0)
  have hMem := hStill.mem_successes_of_arrival_eq rules flight hAllowed hFits hTime (by omega)
  rcases reach.step_cases (Trajectory.compute ball Vec2.zero rules flight) with
    ⟨hNow, -⟩ | ⟨-, found, hLeast, hStep⟩ | ⟨-, hNone, -⟩
  · rw [Trajectory.origin_compute, hControl] at hNow
    contradiction
  · have hLow := hStill.arrival_le_of_mem_successes rules flight hLeast.1
    have hHigh := hLeast.2 hMem
    obtain rfl : found = time := by omega
    rw [hStep, hTime]
  · rw [hNone] at hMem
    contradiction

/-- No window gives a step after the arrival. -/
theorem step_le_arrival :
    (reach.step (Trajectory.compute ball Vec2.zero rules flight)).toNat ≤
      reach.arrival ball 0 := by
  obtain ⟨time, hTime⟩ := Int.eq_ofNat_of_zero_le (reach.arrival_nonneg ball 0)
  have hEstimate := (hStill.restingEstimate_bounds rules flight ball).2
  rcases Nat.lt_or_ge time (Trajectory.compute ball Vec2.zero rules flight).size with
    hInside | hOutside
  · have hMem := hStill.mem_successes_of_arrival_eq rules flight hAllowed hFits hTime hInside
    have hStep := reach.step_le_of_mem_successes _ hMem
    omega
  · -- Whatever the search may find lies in the window, and the window ends before the arrival.
    rcases reach.step_cases (Trajectory.compute ball Vec2.zero rules flight) with
      ⟨-, hStep⟩ | ⟨-, found, hLeast, hStep⟩ | ⟨-, -, hStep⟩
    · rw [hStep]
      exact reach.arrival_nonneg ball 0
    · have hWindow := (reach.mem_successes_bounds _ hLeast.1).2
      have hWord := Word.toNat_ofInt found
      rw [hStep]
      omega
    · have hResting := reach.toNat_restingStep (Trajectory.compute ball Vec2.zero rules flight)
      rw [hStep]
      omega

end Fits

variable (hAllowed : reach.isAllowedAt ball = true)

include hAllowed

/-- What is predicted for a ball at rest keeps to the time of arrival in every window. -/
theorem keepsToArrival_step (hControl : reach.controlsNow ball = false) :
    reach.KeepsToArrival ball (Trajectory.compute ball Vec2.zero rules flight)
      (reach.step (Trajectory.compute ball Vec2.zero rules flight)) where
  le_result := by
    have hEstimate := (hStill.restingEstimate_bounds rules flight ball).1
    have hStep := hStill.restingEstimate_le_step rules flight hControl
    omega
  result_le hFits := hStill.step_le_arrival rules flight hAllowed hFits
  result_eq hFits hInside := hStill.step_eq_arrival rules flight hAllowed hFits hControl hInside

/-- Two windows make a difference of the bonus at most, if a word can hold the count of dashes. -/
theorem step_le_step_add_bonus (hFits : reach.dashCountTo ball 0 < 4294967296)
    (rules' : Rules ℝ) (flight' : FlightLimits ℝ) :
    (reach.step (Trajectory.compute ball Vec2.zero rules flight)).toNat ≤
      (reach.step (Trajectory.compute ball Vec2.zero rules' flight')).toNat + reach.bonus := by
  have hBonus : 0 ≤ reach.bonus := Int.natCast_nonneg _
  cases hControl : reach.controlsNow ball with
  | true =>
      rw [step_eq_zero_of_controlsNow _ _ (by rw [Trajectory.origin_compute]; exact hControl)]
      exact add_nonneg (Int.natCast_nonneg _) hBonus
  | false =>
      have hLow := (hStill.keepsToArrival_step rules' flight' hAllowed hControl).le_result
      have hWord := (reach.step (Trajectory.compute ball Vec2.zero rules flight)).toNat_lt
      have hHigh := hStill.step_le_arrival rules flight hAllowed hFits
      omega

end IsStill
end Reach

namespace Predictor

variable (predictor : Predictor ℝ) (player : Kinematics ℝ) (isGoalie : Bool)

/-- Every type that slows down and has some speed keeps within full speed, whatever the power of its
dashes. -/
theorem isStill_reach (hVelocity : player.velocity = Vec2.zero) {type : PlayerType ℝ}
    {typeRules : Rules ℝ}
    (hMotion : predictor.types.get player.typeId = Locomotion.ofType type typeRules)
    (hDecay : 0 ≤ type.decay) (hSpeedMax : (10 ^ 6)⁻¹ ≤ type.speedMax)
    (hMargin : (10 ^ 9)⁻¹ ≤ predictor.search.reachMargin) :
    (predictor.reach player isGoalie).IsStill := by
  unfold reach
  rw [hMotion]
  refine ⟨hVelocity, hSpeedMax, hMargin, ?_⟩
  intro dist hFits
  rw [Locomotion.toNat_cyclesToReach _ hFits]
  rcases le_total 0 (Locomotion.acceleration type typeRules) with hForward | hBackward
  · exact Locomotion.le_dashCount_mul type typeRules hSpeedMax hDecay hForward dist hFits
  · exact Locomotion.le_dashCount_mul_of_nonpos type typeRules hSpeedMax hDecay hBackward dist
      hFits

/-- What is predicted for a ball at rest and a player that stands still depends on the window by no
more than the bonus, if a word can hold the count of dashes.  Where the ball is not under control it
keeps to the time of arrival. -/
theorem keepsToArrival_predict (hVelocity : player.velocity = Vec2.zero)
    {type : PlayerType ℝ} {typeRules : Rules ℝ}
    (hMotion : predictor.types.get player.typeId = Locomotion.ofType type typeRules)
    (hDecay : 0 ≤ type.decay) (hSpeedMax : (10 ^ 6)⁻¹ ≤ type.speedMax)
    (hMargin : (10 ^ 9)⁻¹ ≤ predictor.search.reachMargin) {ball : Vec2 ℝ}
    (hAllowed : isGoalie = true →
      (predictor.reach player isGoalie).penaltyArea.contains ball = true) :
    ((predictor.reach player isGoalie).dashCountTo ball 0 < 4294967296 →
      ∀ rules flight rules' flight',
        (predictor.predict player (Trajectory.compute ball Vec2.zero rules flight)
            isGoalie).toNat ≤
          (predictor.predict player (Trajectory.compute ball Vec2.zero rules' flight')
            isGoalie).toNat + player.bonusStep.toNat ∧
        (player.bonusStep = 0 →
          predictor.predict player (Trajectory.compute ball Vec2.zero rules flight) isGoalie =
            predictor.predict player (Trajectory.compute ball Vec2.zero rules' flight')
              isGoalie)) ∧
      ((predictor.reach player isGoalie).controlsNow ball = false → ∀ rules flight,
        (predictor.reach player isGoalie).KeepsToArrival ball
          (Trajectory.compute ball Vec2.zero rules flight)
          (predictor.predict player (Trajectory.compute ball Vec2.zero rules flight)
            isGoalie)) := by
  have hStill := predictor.isStill_reach player isGoalie hVelocity hMotion hDecay hSpeedMax hMargin
  have hPlace := ((predictor.reach player isGoalie).isAllowedAt_eq_true_iff ball).mpr hAllowed
  have hDiffer : (predictor.reach player isGoalie).dashCountTo ball 0 < 4294967296 →
      ∀ rules flight rules' flight',
      (predictor.predict player (Trajectory.compute ball Vec2.zero rules flight) isGoalie).toNat ≤
        (predictor.predict player (Trajectory.compute ball Vec2.zero rules' flight')
          isGoalie).toNat + player.bonusStep.toNat := by
    intro hFits rules flight rules' flight'
    exact Int.ofNat_le.mp (hStill.step_le_step_add_bonus rules flight hPlace hFits rules' flight')
  constructor
  · intro hFits rules flight rules' flight'
    refine ⟨hDiffer hFits rules flight rules' flight', ?_⟩
    intro hBonus
    have hNone : player.bonusStep.toNat = 0 := by rw [hBonus]; rfl
    have hLeft := hDiffer hFits rules flight rules' flight'
    have hRight := hDiffer hFits rules' flight' rules flight
    rw [← UInt32.toNat_inj]
    omega
  · intro hControl rules flight
    exact hStill.keepsToArrival_step rules flight hPlace hControl

/-- The receiver is five lengths away from a ball on the centre spot. -/
theorem controlsNow_receiver : (homogeneous.reach receiver false).controlsNow ⟨0, 0⟩ = false := by
  have hRadius : (homogeneous.reach receiver false).motion.controlRadius false = 0.7 := rfl
  rw [Bool.eq_false_iff]
  intro hControls
  have hNorm := ((Reach.controlsNow_eq_true_iff _ _).mp hControls).norm_le
  rw [Vec2.norm_eq, Real.sqrt_le_left] at hNorm
  · change (0 - 5) * (0 - 5) + (0 - 0) * (0 - 0) ≤ (0.7 : ℝ) ^ 2 at hNorm
    norm_num at hNorm
  · change (0 : ℝ) ≤ 0.7
    norm_num

theorem dashCountTo_receiver_lt :
    (homogeneous.reach receiver false).dashCountTo ⟨0, 0⟩ 0 < 4294967296 := by
  have hControl : 0 ≤ (homogeneous.reach receiver false).restingControl ⟨0, 0⟩ :=
    Reach.restingControl_nonneg PlayerType.isPlausible_default.controlRadius_nonneg _
  have hNorm : ((homogeneous.reach receiver false).wayToBall ⟨0, 0⟩ 0).norm ≤ 5 := by
    change ((⟨0, 0⟩ : Vec2 ℝ) - (homogeneous.reach receiver false).motion.inertiaPoint ⟨5, 0⟩
      Vec2.zero 0).norm ≤ 5
    rw [Locomotion.inertiaPoint_zero, Vec2.norm_eq, Real.sqrt_le_left (by norm_num)]
    norm_num
  exact Locomotion.dashCount_lt {} {} (by norm_num) (by norm_num [Locomotion.acceleration])
    (by norm_num) (by linarith)

theorem keepsToArrival_predict_receiver :
    (receiver.velocity = Vec2.zero ∧
      homogeneous.types.get receiver.typeId = Locomotion.ofType {} {} ∧
      0 ≤ ({} : PlayerType ℝ).decay ∧ (10 ^ 6)⁻¹ ≤ ({} : PlayerType ℝ).speedMax ∧
      (10 ^ 9)⁻¹ ≤ homogeneous.search.reachMargin ∧
      (false = true →
        (homogeneous.reach receiver false).penaltyArea.contains (⟨0, 0⟩ : Vec2 ℝ) = true)) ∧
    (homogeneous.reach receiver false).dashCountTo ⟨0, 0⟩ 0 < 4294967296 ∧
    homogeneous.predict receiver (Trajectory.compute ⟨0, 0⟩ Vec2.zero {} {}) false =
      homogeneous.predict receiver
        (Trajectory.compute ⟨0, 0⟩ Vec2.zero {} { maxSteps := 2 }) false ∧
    (homogeneous.reach receiver false).KeepsToArrival ⟨0, 0⟩
      (Trajectory.compute ⟨0, 0⟩ Vec2.zero {} {})
      (homogeneous.predict receiver (Trajectory.compute ⟨0, 0⟩ Vec2.zero {} {}) false) := by
  have hDecay : 0 ≤ ({} : PlayerType ℝ).decay := by norm_num
  have hSpeedMax : (10 ^ 6)⁻¹ ≤ ({} : PlayerType ℝ).speedMax := by norm_num
  have hMargin : (10 ^ 9)⁻¹ ≤ homogeneous.search.reachMargin := by norm_num [homogeneous]
  have hAllowed : false = true →
      (homogeneous.reach receiver false).penaltyArea.contains (⟨0, 0⟩ : Vec2 ℝ) = true := by
    intro hGoalie
    contradiction
  obtain ⟨hAgree, hKeeps⟩ := homogeneous.keepsToArrival_predict receiver false rfl rfl hDecay
    hSpeedMax hMargin hAllowed
  exact ⟨⟨rfl, rfl, hDecay, hSpeedMax, hMargin, hAllowed⟩, dashCountTo_receiver_lt,
    (hAgree dashCountTo_receiver_lt {} {} {} { maxSteps := 2 }).2 rfl,
    hKeeps controlsNow_receiver {} {}⟩

/-! ## Where words end -/

/-- One of theirs stands three lengths away from a ball in their penalty area, in a lockout as long
as a word can count. -/
noncomputable def locked : Kinematics ℝ :=
  { Kinematics.atRest ⟨42, 0⟩ Angle.zero false with penaltyStep := 4294967295 }

theorem dashCountTo_locked :
    0 < (homogeneous.reach locked false).dashCountTo ⟨45, 0⟩ 0 ∧
      (homogeneous.reach locked false).dashCountTo ⟨45, 0⟩ 0 < 4294967296 := by
  have hControl : (homogeneous.reach locked false).restingControl ⟨45, 0⟩ = 0.7 := rfl
  have hNorm : ((homogeneous.reach locked false).wayToBall ⟨45, 0⟩ 0).norm = 3 := by
    change ((⟨45, 0⟩ : Vec2 ℝ) - (homogeneous.reach locked false).motion.inertiaPoint ⟨42, 0⟩
      Vec2.zero 0).norm = 3
    rw [Locomotion.inertiaPoint_zero, Vec2.norm_eq,
      Real.sqrt_eq_iff_mul_self_eq_of_pos (by norm_num)]
    norm_num
  rw [Reach.dashCountTo, hNorm, hControl]
  constructor
  · exact Locomotion.dashCount_pos _ (List.cons_ne_nil _ _) (by norm_num)
  · exact Locomotion.dashCount_lt {} {} (by norm_num) (by norm_num [Locomotion.acceleration])
      (by norm_num) (by norm_num)

/-- The time of arrival may be later than any word can count, and the prediction is cut off. -/
theorem predict_locked_lt_arrival :
    (homogeneous.reach locked false).controlsNow ⟨45, 0⟩ = false ∧
      (homogeneous.predict locked (Trajectory.compute ⟨45, 0⟩ Vec2.zero {} {}) false).toNat <
        (homogeneous.reach locked false).arrival ⟨45, 0⟩ 0 -
          (homogeneous.reach locked false).bonus := by
  obtain ⟨hDashes, hFits⟩ := dashCountTo_locked
  constructor
  · rw [Bool.eq_false_iff]
    intro hControls
    have hFree := ((Reach.controlsNow_eq_true_iff _ _).mp hControls).penaltyStep_eq
    exact absurd hFree (by decide)
  · have hBonus : (homogeneous.reach locked false).bonus = 0 := rfl
    have hPenalty : (homogeneous.reach locked false).penalty = 4294967295 := rfl
    have hWord := (homogeneous.predict locked (Trajectory.compute ⟨45, 0⟩ Vec2.zero {} {})
      false).toNat_lt
    rw [Reach.arrival, hBonus, hPenalty, Reach.dashesTo_eq_dashCountTo hFits]
    omega

/-- The receiver, put on a ray from the centre spot. -/
noncomputable def receiverAt (dist : ℝ) : Kinematics ℝ :=
  { receiver with position := ⟨0, 0⟩ + Vec2.scale ⟨1, 0⟩ dist }

theorem norm_sub_receiverAt {dist : ℝ} (hDist : 0 ≤ dist) :
    ((⟨0, 0⟩ : Vec2 ℝ) - (receiverAt dist).position).norm = dist := by
  change Real.sqrt ((0 - (0 + 1 * dist)) * (0 - (0 + 1 * dist)) +
    (0 - (0 + 0 * dist)) * (0 - (0 + 0 * dist))) = dist
  rw [show (0 - (0 + 1 * dist)) * (0 - (0 + 1 * dist)) +
    (0 - (0 + 0 * dist)) * (0 - (0 + 0 * dist)) = dist * dist by ring, Real.sqrt_mul_self hDist]

theorem norm_wayToBall_receiverAt {dist : ℝ} (hDist : 0 ≤ dist) (step : Nat) :
    ((homogeneous.reach (receiverAt dist) false).wayToBall ⟨0, 0⟩ step).norm = dist := by
  change ((⟨0, 0⟩ : Vec2 ℝ) - (homogeneous.reach (receiverAt dist) false).motion.inertiaPoint
    (receiverAt dist).position Vec2.zero step).norm = dist
  rw [Locomotion.inertiaPoint_zero, norm_sub_receiverAt hDist]

theorem restingControl_receiverAt (dist : ℝ) :
    (homogeneous.reach (receiverAt dist) false).restingControl ⟨0, 0⟩ = 0.6 := by
  change Scalar.positivePart ((0.7 : ℝ) - 0.1) = 0.6
  rw [ExactReal.positivePart_eq]
  norm_num

theorem controlsNow_receiverAt {dist : ℝ} (hFar : 0.7 < dist) :
    (homogeneous.reach (receiverAt dist) false).controlsNow ⟨0, 0⟩ = false := by
  have hNonneg : 0 ≤ dist := le_trans (by norm_num) hFar.le
  rw [Bool.eq_false_iff]
  intro hControls
  have hNear : ((⟨0, 0⟩ : Vec2 ℝ) - (receiverAt dist).position).norm ≤ 0.7 :=
    ((Reach.controlsNow_eq_true_iff _ _).mp hControls).norm_le
  rw [norm_sub_receiverAt hNonneg] at hNear
  exact absurd hNear hFar.not_ge

/-- The trajectory of a ball on the centre spot in a window of some length. -/
noncomputable def window (steps : Nat) : Trajectory ℝ :=
  Trajectory.compute ⟨0, 0⟩ Vec2.zero {} { maxSteps := steps, minSteps := steps }

theorem size_window {steps : Nat} (hSteps : 0 < steps) : (window steps).size = steps := by
  have hShape := Trajectory.compute_hasShape (⟨0, 0⟩ : Vec2 ℝ) Vec2.zero {}
    { maxSteps := steps, minSteps := steps }
  have hMost : (window steps).size ≤ max steps 1 := hShape.size_le
  have hLeast : steps ≤ (window steps).size := by
    refine hShape.minSteps_le_size (Nat.le_refl steps) ?_
    rw [Trajectory.last_compute_zero]
    norm_num [FlightArea.rectangle, Rules.pitch, Rectangle.centered, Rectangle.expand,
      Rectangle.ofCorners, Rectangle.contains, ExactReal.minimum_eq, ExactReal.maximum_eq,
      ExactReal.le_eq_true_iff]
  omega

/-- Five million kilometres away the receiver is predicted by the end of the window, or by what is
left of its count of dashes. -/
theorem predict_receiverAt_le {steps : Nat} (hSteps : 0 < steps) :
    (homogeneous.predict (receiverAt 5000000000) (window steps) false).toNat ≤ max 65 steps := by
  have hMotion : (homogeneous.reach (receiverAt 5000000000) false).motion =
      Locomotion.ofType {} {} := rfl
  have hLimit : (homogeneous.reach (receiverAt 5000000000) false).search.maxTurnIterations.toNat =
      16 := rfl
  have hPenalty : (homogeneous.reach (receiverAt 5000000000) false).penalty = 0 := rfl
  have hFar : 4294967346 * max ({} : PlayerType ℝ).speedMax (10 ^ 6)⁻¹ ≤
      ((homogeneous.reach (receiverAt 5000000000) false).wayToBall (window steps).last 100).norm -
        (homogeneous.reach (receiverAt 5000000000) false).restingControl (window steps).last := by
    rw [window, Trajectory.last_compute_zero, norm_wayToBall_receiverAt (by norm_num),
      restingControl_receiverAt, max_eq_left (by norm_num)]
    norm_num
  have hStep := Reach.step_le_of_far hMotion (by norm_num) hFar
  rw [hLimit, hPenalty, size_window hSteps] at hStep
  unfold predict
  omega

/-- No search in a window of this length finds a step at which full speed brings the receiver there,
so it is not predicted before the end of the window. -/
theorem le_predict_receiverAt {steps : Nat} (hSome : 0 < steps) (hSteps : steps ≤ 4000000000) :
    steps - 1 ≤ (homogeneous.predict (receiverAt 5000000000) (window steps) false).toNat := by
  have hNorm := norm_sub_receiverAt (show (0 : ℝ) ≤ 5000000000 by norm_num)
  rcases (homogeneous.reach (receiverAt 5000000000) false).step_cases (window steps) with
    ⟨hControls, -⟩ | ⟨-, found, hLeast, -⟩ | ⟨-, -, hStep⟩
  · rw [window, Trajectory.origin_compute, controlsNow_receiverAt (by norm_num)] at hControls
    contradiction
  · obtain ⟨-, ball, hBall, hSucceeds⟩ := hLeast.1
    obtain ⟨hInside, -⟩ := List.getElem?_eq_some_iff.mp hBall
    obtain rfl := Trajectory.eq_of_mem_compute_zero _ _ _ (List.mem_of_getElem? hBall)
    have hReach := Reach.norm_le_of_succeedsAt hSucceeds
    have hFound : found < (window steps).size := hInside
    rw [size_window hSome] at hFound
    have hCycles : (found : ℝ) ≤ 4000000000 := by exact_mod_cast hFound.le.trans hSteps
    change ((⟨0, 0⟩ : Vec2 ℝ) - (receiverAt 5000000000).position).norm ≤
      max 0 (Scalar.positivePart ((0.7 : ℝ) - 0.1) + 1.05 * ((found + 0 - 0 : ℤ) : ℝ) + 0.5)
        at hReach
    rw [hNorm, ExactReal.positivePart_eq, le_max_iff] at hReach
    norm_num at hReach
    linarith
  · have hResting := (homogeneous.reach (receiverAt 5000000000) false).lastStep_le_restingStep
      (window steps)
    rw [Trajectory.lastStep, size_window hSome] at hResting
    rw [predict, hStep]
    omega

/-- Two ways in which no prediction keeps to the time of arrival: the arrival is later than any word
can count, or no word can hold the count of dashes, and then the window decides. -/
theorem windows_disagree_about_receiverAt :
    (({} : PlayerType ℝ).IsPlausible ∧ (10 ^ 6)⁻¹ ≤ ({} : PlayerType ℝ).speedMax ∧
      (10 ^ 9)⁻¹ ≤ homogeneous.search.reachMargin) ∧
    (locked.velocity = Vec2.zero ∧
      homogeneous.types.get locked.typeId = Locomotion.ofType {} {} ∧
      (homogeneous.reach locked false).controlsNow ⟨45, 0⟩ = false ∧
      (homogeneous.predict locked (Trajectory.compute ⟨45, 0⟩ Vec2.zero {} {}) false).toNat <
        (homogeneous.reach locked false).arrival ⟨45, 0⟩ 0 -
          (homogeneous.reach locked false).bonus) ∧
    (receiverAt 5000000000).velocity = Vec2.zero ∧
    homogeneous.types.get (receiverAt 5000000000).typeId = Locomotion.ofType {} {} ∧
    (receiverAt 5000000000).bonusStep = 0 ∧
    homogeneous.predict (receiverAt 5000000000) (window 10) false <
      homogeneous.predict (receiverAt 5000000000) (window 200) false := by
  obtain ⟨hControl, hLate⟩ := predict_locked_lt_arrival
  refine ⟨⟨PlayerType.isPlausible_default, by norm_num, by norm_num [homogeneous]⟩,
    ⟨rfl, rfl, hControl, hLate⟩, rfl, rfl, rfl, ?_⟩
  have hShort := predict_receiverAt_le (show 0 < 10 by decide)
  have hLong := le_predict_receiverAt (show 0 < 200 by decide) (by decide)
  rw [UInt32.lt_iff_toNat_lt]
  omega

end Predictor
end SoccerWorld
