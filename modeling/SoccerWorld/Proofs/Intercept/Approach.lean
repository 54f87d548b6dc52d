import SoccerWorld.Proofs.Intercept.FeasibleStep
import SoccerWorld.Proofs.Intercept.TurnLoop
import SoccerWorld.Proofs.Locomotion.DashOrder

/-!
# How long a player takes to the ball

Turning and dashing to the ball takes until a step that can be given in one formula
(`Reach.arrival`): the search succeeds from that step on (`Reach.isAchievable_iff_arrival_le`), and
the estimate for the resting place is put together from the same turns and dashes
(`Reach.restingEstimate_eq_sub`).

Two predictions are compared part by part.  If one player has no less time, speed and control radius
than another (`Reach.Outpaces`), and needs no more turns and dashes to any place of the ball
(`Reach.IsCloserTo`), then it is predicted no later (`Reach.Outpaces.step_le`).  Neither the steps
that are left out nor the change from the search to the estimate makes a difference to that, as long
as the sum for the steps to leave out does not wrap.  It does not wrap where words can hold all
counts of dashes (`Reach.DashesFit.firstStepFits`).

Where no word can hold the count for the resting place, the prediction does not grow with the way
any more: it is the end of the window, or a few cycles (`Reach.step_le_of_far`).
-/

namespace SoccerWorld

/-- A type that slows down, with no negative speed or radius. -/
structure PlayerType.IsPlausible (type : PlayerType ℝ) : Prop where
  decay_nonneg : 0 ≤ type.decay
  decay_lt_one : type.decay < 1
  speedMax_nonneg : 0 ≤ type.speedMax
  kickableRadius_nonneg : 0 ≤ type.kickableRadius
  catchableRadius_nonneg : 0 ≤ type.catchableRadius

theorem PlayerType.isPlausible_default : ({} : PlayerType ℝ).IsPlausible := by
  constructor <;> norm_num

theorem PlayerType.IsPlausible.controlRadius_nonneg {motion : Locomotion ℝ}
    (hPlausible : motion.type.IsPlausible) (isGoalie : Bool) :
    0 ≤ motion.controlRadius isGoalie := by
  cases isGoalie with
  | false => exact hPlausible.kickableRadius_nonneg
  | true => exact hPlausible.catchableRadius_nonneg

namespace Reach

/-! ## Turns and dashes to a place -/

section Arrival

variable {R : Type} [Scalar R] (reach : Reach R) (ball : Vec2 R) (step : Nat)

/-- Turns towards a ball at a place, from where inertia has carried the player. -/
def turnsTo : Nat :=
  reach.turns (reach.restingControl ball) (reach.wayToBall ball step)

/-- Dashes to a ball at a place, from where inertia has carried the player. -/
def dashesTo : Nat :=
  (reach.motion.cyclesToReach
    ((reach.wayToBall ball step).norm - reach.restingControl ball)).toNat

/-- The same dashes, counted without the limit of a word. -/
def dashCountTo : Nat :=
  reach.motion.dashCount ((reach.wayToBall ball step).norm - reach.restingControl ball)

/-- The step at which turning and dashing brings the player to a ball at a place: the lockout, then
the turns, then the dashes less the bonus that the turns have left over. -/
def arrival : Int :=
  reach.turnsTo ball step +
    max 0 (reach.dashesTo ball step - max 0 (reach.bonus - reach.turnsTo ball step)) +
      reach.penalty

variable {reach ball}

theorem restingControl_of_isAllowedAt (hAllowed : reach.isAllowedAt ball = true) :
    reach.restingControl ball = reach.control := by
  simp [restingControl, hAllowed]

variable {step} in
theorem dashesTo_eq_dashCountTo (hFits : reach.dashCountTo ball step < 4294967296) :
    reach.dashesTo ball step = reach.dashCountTo ball step :=
  reach.motion.toNat_cyclesToReach hFits

/-- Words can hold the counts of dashes to all places at which a prediction looks. -/
structure DashesFit (reach : Reach R) (trajectory : Trajectory R) : Prop where
  inWindow : ∀ step ball, trajectory.positionAt? step = some ball →
    reach.motion.dashCount ((reach.wayToBall ball step).norm - reach.control) < 4294967296
  atRest : reach.dashCountTo trajectory.last reach.search.fallbackSteps.toNat < 4294967296

variable {step} in
theorem DashesFit.dashCountTo_lt {trajectory : Trajectory R} (hFit : reach.DashesFit trajectory)
    (hBall : trajectory.positionAt? step = some ball) (hAllowed : reach.isAllowedAt ball = true) :
    reach.dashCountTo ball step < 4294967296 := by
  rw [dashCountTo, restingControl_of_isAllowedAt hAllowed]
  exact hFit.inWindow step ball hBall

end Arrival

variable {reach : Reach ℝ} {ball : Vec2 ℝ} {trajectory : Trajectory ℝ}

/-- Where the role allows to control the ball, turning and dashing succeeds from the step of arrival
on. -/
theorem isAchievable_iff_arrival_le (hAllowed : reach.isAllowedAt ball = true) (step : Nat) :
    reach.isAchievable ball step = true ↔ reach.arrival ball step ≤ step := by
  rw [isAchievable_eq_true_iff]
  simp only [arrival, turnsTo, dashesTo, restingControl_of_isAllowedAt hAllowed]
  rcases le_or_gt (reach.wayToBall ball step).norm reach.control with hNear | hFar
  · rw [reach.motion.cyclesToReach_of_nonpos (sub_nonpos.mpr hNear), UInt32.toNat_zero]
    simp only [hNear, true_or, and_true]
    omega
  · simp only [hFar.not_ge, false_or]
    omega

/-- The estimate for the resting place takes the whole bonus off turns and dashes. -/
theorem restingEstimate_eq_sub :
    reach.restingEstimate trajectory =
      reach.turnsTo trajectory.last reach.search.fallbackSteps.toNat +
        reach.dashesTo trajectory.last reach.search.fallbackSteps.toNat - reach.bonus +
          reach.penalty := by
  have hZero : (0.0 : ℝ) = 0 := by norm_num
  simp only [restingEstimate, turnsTo, dashesTo, ExactReal.lt_eq_true_iff, hZero]
  split
  · rfl
  · next hNear => rw [reach.motion.cyclesToReach_of_nonpos (not_lt.mp hNear)]

theorem turnsTo_le (reach : Reach ℝ) (ball : Vec2 ℝ) (step : Nat) :
    reach.turnsTo ball step ≤ reach.search.maxTurnIterations.toNat := by
  unfold turnsTo turns Turning.count
  split
  · exact Nat.zero_le _
  · exact Turning.stopsAt_countFrom.le_limit

/-- However much farther the player is than a word can count, what is left of the count when it
wraps and the turns are all that it is predicted to need after the lockout. -/
theorem step_le_of_far {type : PlayerType ℝ} {rules : Rules ℝ}
    (hMotion : reach.motion = Locomotion.ofType type rules) (hSpeedMax : 0 ≤ type.speedMax)
    (hFar : 4294967346 * max type.speedMax (10 ^ 6)⁻¹ ≤
      (reach.wayToBall trajectory.last reach.search.fallbackSteps.toNat).norm -
        reach.restingControl trajectory.last) :
    ((reach.step trajectory).toNat : ℤ) ≤
      max (reach.search.maxTurnIterations.toNat + 49 + reach.penalty) trajectory.size := by
  have hDashes : reach.dashesTo trajectory.last reach.search.fallbackSteps.toNat = 49 := by
    rw [dashesTo, hMotion, Locomotion.cyclesToReach_of_far type rules hSpeedMax hFar]
    rfl
  have hTurns := reach.turnsTo_le trajectory.last reach.search.fallbackSteps.toNat
  have hBonus := reach.bonus_bounds
  have hStep := reach.step_le_max trajectory
  rw [restingEstimate_eq_sub, hDashes] at hStep
  omega

/-! ## Control radii -/

/-- The control radius at a place is that of one of both roles, made smaller for one of ours. -/
theorem exists_restingControl_eq (reach : Reach ℝ) (ball : Vec2 ℝ) :
    ∃ isGoalie, reach.restingControl ball = reach.shrink (reach.motion.controlRadius isGoalie) := by
  unfold restingControl control rawControl
  split
  · exact ⟨reach.isGoalie, rfl⟩
  · exact ⟨false, rfl⟩

theorem shrink_nonneg {radius : ℝ} (hRadius : 0 ≤ radius) : 0 ≤ reach.shrink radius := by
  unfold shrink
  split
  · rw [ExactReal.positivePart_eq]
    exact le_max_right _ _
  · exact hRadius

theorem restingControl_nonneg (hRadius : ∀ isGoalie, 0 ≤ reach.motion.controlRadius isGoalie)
    (ball : Vec2 ℝ) : 0 ≤ reach.restingControl ball := by
  obtain ⟨isGoalie, hControl⟩ := reach.exists_restingControl_eq ball
  rw [hControl]
  exact shrink_nonneg (hRadius isGoalie)

/-! ## Comparing two predictions -/

/-- The first player has no less time, speed and control radius than the second one. -/
structure Outpaces (fast slow : Reach ℝ) : Prop where
  search_eq : fast.search = slow.search
  bonus_le : slow.bonus ≤ fast.bonus
  penalty_le : fast.penalty ≤ slow.penalty
  control_le : slow.control ≤ fast.control
  speedMax_nonneg : 0 ≤ slow.motion.type.speedMax
  speedMax_le : slow.motion.type.speedMax ≤ fast.motion.type.speedMax

/-- The first player needs no more turns and dashes than the second one to a ball at a place, from
where inertia carries each within some cycles. -/
structure IsCloserTo (fast slow : Reach ℝ) (ball : Vec2 ℝ) (step : Nat) : Prop where
  isAllowedAt_of : slow.isAllowedAt ball = true → fast.isAllowedAt ball = true
  norm_le : (ball - fast.player.position).norm ≤ (ball - slow.player.position).norm
  turnsTo_le : fast.turnsTo ball step ≤ slow.turnsTo ball step
  dashesTo_le : fast.dashesTo ball step ≤ slow.dashesTo ball step

/-- As far as words can hold the counts, the order of dashes is that of the counts. -/
theorem dashesTo_le_of_dashCountTo_le {fast slow : Reach ℝ} {step : Nat}
    (hCounts : fast.dashCountTo ball step ≤ slow.dashCountTo ball step)
    (hFits : slow.dashCountTo ball step < 4294967296) :
    fast.dashesTo ball step ≤ slow.dashesTo ball step := by
  rw [dashesTo_eq_dashCountTo hFits, dashesTo_eq_dashCountTo (hCounts.trans_lt hFits)]
  exact hCounts

/-- Where words can hold the counts of dashes, the ball's line is not so far away that the sum for
the first searched step would wrap. -/
theorem DashesFit.firstStepFits {type : PlayerType ℝ} {rules : Rules ℝ}
    (hFit : reach.DashesFit trajectory) (hMotion : reach.motion = Locomotion.ofType type rules)
    (hSpeedMax : 0 ≤ type.speedMax) (hSome : 0 < trajectory.size) :
    reach.FirstStepFits trajectory := by
  have hOrigin : trajectory.positionAt? 0 = some trajectory.origin := by
    unfold Trajectory.origin Trajectory.positionAt?
    rw [List.head?_eq_getElem?, List.getElem?_eq_getElem hSome, Option.getD_some]
  have hWay : reach.wayToBall trajectory.origin 0 = trajectory.origin - reach.player.position := by
    rw [wayToBall, Locomotion.inertiaPoint, Locomotion.inertiaTravel, if_pos rfl, Vec2.add_zero_eq]
  have hCount := hFit.inWindow 0 _ hOrigin
  rw [hWay, hMotion] at hCount
  refine firstStepFits_of_norm_le ?_
  rw [hMotion]
  exact Locomotion.le_of_dashCount_lt type rules hSpeedMax hCount

/-- Words can hold the counts of dashes to all places on and around a pitch. -/
theorem dashesFit_of_norm_le {type : PlayerType ℝ} {rules : Rules ℝ}
    (hMotion : reach.motion = Locomotion.ofType type rules) (hPlausible : type.IsPlausible)
    (hAcceleration : 0 ≤ Locomotion.acceleration type rules)
    (hWindow : ∀ step ball, trajectory.positionAt? step = some ball →
      (reach.wayToBall ball step).norm ≤ 4000)
    (hRest : (reach.wayToBall trajectory.last reach.search.fallbackSteps.toNat).norm ≤ 4000) :
    reach.DashesFit trajectory := by
  have hCounts : ∀ {dist radius : ℝ}, dist ≤ 4000 → 0 ≤ radius →
      reach.motion.dashCount (dist - radius) < 4294967296 := by
    intro dist radius hDist hRadius
    rw [hMotion]
    exact Locomotion.dashCount_lt type rules hPlausible.decay_nonneg hAcceleration
      hPlausible.speedMax_nonneg (by linarith)
  have hRadius : ∀ isGoalie, 0 ≤ reach.motion.controlRadius isGoalie := by
    rw [hMotion]
    exact hPlausible.controlRadius_nonneg
  constructor
  · intro step ball hBall
    exact hCounts (hWindow step ball hBall) (shrink_nonneg (hRadius _))
  · exact hCounts hRest (restingControl_nonneg hRadius _)

namespace Outpaces

variable {fast slow : Reach ℝ} (hOutpaces : fast.Outpaces slow)

include hOutpaces

theorem arrival_le {step : Nat} (hCloser : fast.IsCloserTo slow ball step) :
    fast.arrival ball step ≤ slow.arrival ball step := by
  have hTurns := hCloser.turnsTo_le
  have hDashes := hCloser.dashesTo_le
  have hBonus := hOutpaces.bonus_le
  have hPenalty := hOutpaces.penalty_le
  unfold arrival
  omega

/-- After the lockout a place within reach at full speed stays within reach. -/
theorem isOutOfReach_eq_false {step : Nat} (hCloser : fast.IsCloserTo slow ball step)
    (hFree : slow.penalty ≤ step) (hReach : slow.isOutOfReach ball step = false) :
    fast.isOutOfReach ball step = false := by
  rw [isOutOfReach_eq_false_iff] at hReach ⊢
  have hCycles : ((step + slow.bonus - slow.penalty : ℤ) : ℝ) ≤
      ((step + fast.bonus - fast.penalty : ℤ) : ℝ) := by
    have hBonus := hOutpaces.bonus_le
    have hPenalty := hOutpaces.penalty_le
    exact Int.cast_le.mpr (by omega)
  have hTime : (0 : ℝ) ≤ ((step + slow.bonus - slow.penalty : ℤ) : ℝ) := by
    have hBonus : 0 ≤ slow.bonus := Int.natCast_nonneg _
    exact Int.cast_nonneg (by omega)
  have hWay := mul_le_mul hOutpaces.speedMax_le hCycles hTime
    (hOutpaces.speedMax_nonneg.trans hOutpaces.speedMax_le)
  have hControl := hOutpaces.control_le
  calc (ball - fast.player.position).normSquared
    _ ≤ (ball - slow.player.position).normSquared := (Vec2.norm_le_norm_iff _ _).mp hCloser.norm_le
    _ ≤ _ := hReach
    _ ≤ _ := by
      refine pow_le_pow_left₀ (le_max_left _ _) (max_le_max_left 0 ?_) 2
      rw [hOutpaces.search_eq]
      linarith

theorem succeedsAt {step : Nat} (hCloser : fast.IsCloserTo slow ball step)
    (hSucceeds : slow.succeedsAt ball step = true) : fast.succeedsAt ball step = true := by
  have hFree := slow.penalty_le_of_succeedsAt hSucceeds
  simp only [Reach.succeedsAt, Bool.and_eq_true, Bool.not_eq_true'] at hSucceeds ⊢
  obtain ⟨hAllowed, hReach, hAchievable⟩ := hSucceeds
  have hAllowed' := hCloser.isAllowedAt_of hAllowed
  rw [isAchievable_iff_arrival_le hAllowed] at hAchievable
  rw [isAchievable_iff_arrival_le hAllowed']
  exact ⟨hAllowed', hOutpaces.isOutOfReach_eq_false hCloser hFree hReach,
    (hOutpaces.arrival_le hCloser).trans hAchievable⟩

/-- Full speed brings a player no farther from the ball's line to it in no more cycles. -/
theorem cyclesToLine_le
    (hLine : Vec2.distanceToLine trajectory.origin trajectory.direction fast.player.position ≤
      Vec2.distanceToLine trajectory.origin trajectory.direction slow.player.position) :
    fast.cyclesToLine trajectory ≤ slow.cyclesToLine trajectory := by
  have hLeast : (0 : ℝ) < max slow.motion.type.speedMax (10 ^ 6)⁻¹ :=
    lt_max_of_lt_right (by norm_num)
  rw [cyclesToLine_eq_floor, cyclesToLine_eq_floor]
  exact Int.floor_le_floor (div_le_div₀ (le_max_right _ _)
    (max_le_max_right 0 (sub_le_sub hLine hOutpaces.control_le)) hLeast
    (max_le_max_right _ hOutpaces.speedMax_le))

/-- The search of a player no farther from the ball's line begins no later. -/
theorem firstStep_le
    (hLine : Vec2.distanceToLine trajectory.origin trajectory.direction fast.player.position ≤
      Vec2.distanceToLine trajectory.origin trajectory.direction slow.player.position)
    (hFits : slow.FirstStepFits trajectory) :
    fast.firstStep trajectory ≤ slow.firstStep trajectory := by
  have hBounds : fast.firstBound trajectory ≤ slow.firstBound trajectory := by
    have hBonus := hOutpaces.bonus_le
    have hPenalty := hOutpaces.penalty_le
    have hCycles := hOutpaces.cyclesToLine_le hLine
    unfold firstBound
    omega
  have hFast := firstStep_eq_max (fast.cyclesToLine_nonneg trajectory) (hBounds.trans hFits)
  have hSlow := firstStep_eq_max (slow.cyclesToLine_nonneg trajectory) hFits
  omega

theorem restingEstimate_le
    (hCloser : fast.IsCloserTo slow trajectory.last slow.search.fallbackSteps.toNat) :
    fast.restingEstimate trajectory ≤ slow.restingEstimate trajectory := by
  have hTurns := hCloser.turnsTo_le
  have hDashes := hCloser.dashesTo_le
  have hBonus := hOutpaces.bonus_le
  have hPenalty := hOutpaces.penalty_le
  rw [restingEstimate_eq_sub, restingEstimate_eq_sub, hOutpaces.search_eq]
  omega

/-- Whoever outpaces another player, and is closer to all places of the ball, is predicted no
later. -/
theorem step_le
    (hControls : slow.controlsNow trajectory.origin = true →
      fast.controlsNow trajectory.origin = true)
    (hLine : Vec2.distanceToLine trajectory.origin trajectory.direction fast.player.position ≤
      Vec2.distanceToLine trajectory.origin trajectory.direction slow.player.position)
    (hFits : 0 < trajectory.size → slow.FirstStepFits trajectory)
    (hCloser : ∀ step ball, trajectory.positionAt? step = some ball →
      slow.isAllowedAt ball = true → fast.IsCloserTo slow ball step)
    (hLast : fast.IsCloserTo slow trajectory.last slow.search.fallbackSteps.toNat) :
    fast.step trajectory ≤ slow.step trajectory := by
  rw [UInt32.le_iff_toNat_le]
  rcases slow.step_cases trajectory with ⟨hControl, -⟩ | ⟨-, found, hLeast, hStep⟩ | ⟨-, -, hStep⟩
  · rw [fast.step_eq_zero_of_controlsNow trajectory (hControls hControl)]
    exact Nat.zero_le _
  · -- What the slow player finds, the fast one could have found.
    obtain ⟨hFirst, ball, hBall, hSucceeds⟩ := hLeast.1
    have hSome := Nat.zero_lt_of_lt (slow.mem_successes_bounds trajectory hLeast.1).2
    have hAllowed := slow.isAllowedAt_of_succeedsAt hSucceeds
    have hFound := fast.step_le_of_mem_successes trajectory
      ⟨(hOutpaces.firstStep_le hLine (hFits hSome)).trans hFirst, ball, hBall,
        hOutpaces.succeedsAt (hCloser found ball hBall hAllowed) hSucceeds⟩
    have hWord := Word.toNat_ofInt found
    have hBound := (fast.step trajectory).toNat_lt
    rw [hStep]
    omega
  · have hSlow := slow.toNat_restingStep trajectory
    rw [hStep]
    rcases fast.step_cases trajectory with ⟨-, hStep'⟩ | ⟨-, found, hLeast, hStep'⟩ | ⟨-, -, hStep'⟩
    · rw [hStep']
      exact Nat.zero_le _
    · -- What the fast player finds is in the window, and the fallback is not.
      have hInside := (fast.mem_successes_bounds trajectory hLeast.1).2
      have hWord := Word.toNat_ofInt found
      rw [hStep']
      omega
    · have hEstimate := hOutpaces.restingEstimate_le hLast
      have hFast := fast.toNat_restingStep trajectory
      rw [hStep']
      omega

end Outpaces
end Reach
end SoccerWorld
