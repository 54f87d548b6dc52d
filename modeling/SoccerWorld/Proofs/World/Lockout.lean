import SoccerWorld.Numeric.Binary64
import SoccerWorld.Proofs.Intercept.FeasibleStep
import SoccerWorld.Proofs.World.Ranking

/-!
# Predictions for players in a lockout

A step at which the search succeeds comes after the lockout (`Reach.penalty_le_of_succeedsAt`), and
a ball under control counts for a free player only.  The estimate for the resting place takes the
bonus off the lockout as well.  So a prediction comes before the end of the lockout exactly if the
window ends before it and the bonus is larger than the cycles of turning and dashing
(`Reach.step_lt_penaltyStep_iff`), and never by more than the bonus.
-/

namespace SoccerWorld

namespace Reach

variable {R : Type} [Scalar R] (reach : Reach R) (trajectory : Trajectory R)

/-- Cycles of turning and dashing that are counted for the resting place. -/
def restingCycles : Nat :=
  let control := reach.restingControl trajectory.last
  let way := reach.wayToBall trajectory.last reach.search.fallbackSteps.toNat
  let dashes :=
    if Scalar.lt 0.0 (way.norm - control) then reach.motion.cyclesToReach (way.norm - control)
    else 0
  reach.turns control way + dashes.toNat

theorem restingEstimate_eq :
    reach.restingEstimate trajectory =
      reach.restingCycles trajectory - reach.bonus + reach.penalty := by
  unfold restingEstimate restingCycles
  dsimp only
  rw [Nat.cast_add]

theorem penaltyStep_eq_of_controlsNow {ball : Vec2 R}
    (hControls : reach.controlsNow ball = true) : reach.player.penaltyStep = 0 := by
  unfold controlsNow at hControls
  rw [Bool.and_eq_true] at hControls
  exact of_decide_eq_true hControls.1

/-- The step predicted for the resting place is as far from the end of the lockout as the bonus is
from the cycles of turning and dashing, unless the window is longer. -/
theorem toNat_restingStep_eq_cycles :
    ((reach.restingStep trajectory).toNat : ℤ) =
      min (max ((reach.restingCycles trajectory : ℤ) - reach.player.bonusStep.toNat +
        reach.player.penaltyStep.toNat) ((trajectory.size - 1 : ℕ) : ℤ)) 4294967295 := by
  rw [toNat_restingStep, restingEstimate_eq, bonus, penalty]

/-- A prediction comes before the end of the lockout exactly if the window ends before it and the
bonus is larger than the cycles of turning and dashing. -/
theorem step_lt_penaltyStep_iff :
    reach.step trajectory < reach.player.penaltyStep ↔
      trajectory.size - 1 < reach.player.penaltyStep.toNat ∧
        reach.restingCycles trajectory < reach.player.bonusStep.toNat := by
  have hPenalty := reach.player.penaltyStep.toNat_lt
  rw [UInt32.lt_iff_toNat_lt]
  rcases reach.step_cases trajectory with ⟨hControls, hStep⟩ | ⟨-, found, hLeast, hStep⟩ |
    ⟨-, -, hStep⟩
  · have hFree := congrArg UInt32.toNat (reach.penaltyStep_eq_of_controlsNow hControls)
    rw [UInt32.toNat_zero] at hFree
    omega
  · obtain ⟨hAfter, hInside⟩ := reach.mem_successes_bounds trajectory hLeast.1
    have hWord := Word.toNat_ofInt found
    rw [hStep]
    omega
  · have hResting := reach.toNat_restingStep_eq_cycles trajectory
    rw [hStep]
    omega

/-- A prediction comes before the end of the lockout by no more than the bonus. -/
theorem penaltyStep_le_step_add :
    reach.player.penaltyStep.toNat ≤
      (reach.step trajectory).toNat + reach.player.bonusStep.toNat := by
  have hPenalty := reach.player.penaltyStep.toNat_lt
  rcases reach.step_cases trajectory with ⟨hControls, -⟩ | ⟨-, found, hLeast, hStep⟩ |
    ⟨-, -, hStep⟩
  · rw [reach.penaltyStep_eq_of_controlsNow hControls, UInt32.toNat_zero]
    exact Nat.zero_le _
  · obtain ⟨hAfter, -⟩ := reach.mem_successes_bounds trajectory hLeast.1
    have hWord := Word.toNat_ofInt found
    rw [hStep]
    omega
  · have hResting := reach.toNat_restingStep_eq_cycles trajectory
    rw [hStep]
    omega

/-- How far a prediction keeps to a lockout. -/
structure KeepsLockout (reach : Reach R) (trajectory : Trajectory R) (result : UInt32) : Prop where
  lt_iff : result < reach.player.penaltyStep ↔
    trajectory.size - 1 < reach.player.penaltyStep.toNat ∧
      reach.restingCycles trajectory < reach.player.bonusStep.toNat
  le_add : reach.player.penaltyStep.toNat ≤ result.toNat + reach.player.bonusStep.toNat

theorem keepsLockout_step : reach.KeepsLockout trajectory (reach.step trajectory) :=
  ⟨reach.step_lt_penaltyStep_iff trajectory, reach.penaltyStep_le_step_add trajectory⟩

end Reach

namespace Predictor

variable {R : Type} [Scalar R] (predictor : Predictor R)

/-- The better of two roles keeps to the lockout as each of them does. -/
theorem bestStep_bounds (player : Kinematics R) (trajectory : Trajectory R) (isGoalie : Bool) :
    player.penaltyStep.toNat ≤
        (predictor.bestStep player trajectory isGoalie).toNat + player.bonusStep.toNat ∧
      (player.penaltyStep.toNat ≤ trajectory.size - 1 →
        player.penaltyStep ≤ predictor.bestStep player trajectory isGoalie) := by
  have hRole : ∀ isGoalie, player.penaltyStep.toNat ≤
      (predictor.predict player trajectory isGoalie).toNat + player.bonusStep.toNat ∧
        (player.penaltyStep.toNat ≤ trajectory.size - 1 →
          player.penaltyStep ≤ predictor.predict player trajectory isGoalie) := by
    intro isGoalie
    obtain ⟨hEarly, hBonus⟩ := (predictor.reach player isGoalie).keepsLockout_step trajectory
    refine ⟨hBonus, fun hInside => ?_⟩
    rw [← UInt32.not_lt]
    intro hLess
    exact absurd (hEarly.mp hLess).1 (Nat.not_lt.mpr hInside)
  unfold bestStep
  dsimp only
  split
  · rw [UInt32.min_def]
    split
    · exact hRole false
    · exact hRole true
  · exact hRole false

end Predictor

namespace Observer

variable {R : Type} [Scalar R]

/-- A prediction for a locked player comes before the end of the lockout exactly if the window does
and the bonus is larger than the cycles of turning and dashing, and then by no more than the bonus.
Hence the same bound for the steps of a snapshot. -/
theorem keepsLockout_build (observer : Observer R) (observation : CycleObservation R)
    (previous : Option (Snapshot R)) :
    (∀ (predictor : Predictor R) (player : Kinematics R) (trajectory : Trajectory R)
      (isGoalie : Bool), (predictor.reach player isGoalie).KeepsLockout trajectory
        (predictor.predict player trajectory isGoalie)) ∧
      ∀ player ∈ (observer.build observation previous .ahead).players,
        ∃ step, player.reachStep = some step ∧
          (player.lockoutRemaining observer.config.rules.tackleCycles
              observer.config.rules.foulCycles).toNat ≤
            step.toNat + (observer.config.search.bonusStep player.ages.pos).toNat ∧
          ((player.lockoutRemaining observer.config.rules.tackleCycles
                observer.config.rules.foulCycles).toNat ≤
              (observer.build observation previous .ahead).trajectory.size - 1 →
            player.lockoutRemaining observer.config.rules.tackleCycles
              observer.config.rules.foulCycles ≤ step) := by
  constructor
  · intro predictor player trajectory isGoalie
    exact (predictor.reach player isGoalie).keepsLockout_step trajectory
  · intro player hPlayer
    refine ⟨_, observer.reachStep_of_mem_build_ahead observation previous player hPlayer, ?_⟩
    exact observer.predictor.bestStep_bounds
      (Kinematics.ofPlayer player observer.perspective.ourSide observer.config.rules
        observer.config.search) _ player.isGoalie

/-- A player in the first cycle of a tackle, seen in this cycle, at a ball beyond the goal line. -/
def tackler : Kinematics Float where
  position := ⟨60.0, 0.0⟩
  velocity := Vec2.zero
  body := Angle.zero
  typeId := none
  bonusStep := 3
  penaltyStep := 9
  isTeammate := false

/-- The trajectory of a ball beyond the goal line. -/
def ballOut : Trajectory Float :=
  Trajectory.compute ⟨60.0, 0.0⟩ Vec2.zero {} {}

/-- The bonus is taken off the lockout, because the player has no way to go. -/
theorem predict_tackler_lt_penaltyStep :
    (create Side.left (WorldConfig.standard (R := Float)) none).predictor.predict tackler ballOut
      false < tackler.penaltyStep :=
  (Reach.step_lt_penaltyStep_iff _ _).mpr ⟨by decide +kernel, by decide +kernel⟩

end Observer
end SoccerWorld
