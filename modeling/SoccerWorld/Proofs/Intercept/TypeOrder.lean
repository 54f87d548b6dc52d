import SoccerWorld.Proofs.Ball.TrajectoryShape
import SoccerWorld.Proofs.Intercept.Approach
import SoccerWorld.Proofs.Intercept.Drift

/-!
# Better player types and smaller control radii

Of two players that stand, move and turn alike (`Reach.Resembles`), the one whose dashes go as far
and whose control radius is no smaller is closer to every place of the ball
(`Reach.Resembles.isCloserTo`).  So a type that is no worse in speed, dash power and radii, and
slows down and turns alike, is predicted no later, and one of ours is predicted no earlier than an
opponent in its place (`Predictor.predict_le_predict_of_dominates`).  Words have to hold the counts
of dashes of the slower player (`Reach.DashesFit`); then the sum for its first searched step does
not wrap either.
-/

namespace SoccerWorld

namespace PlayerType

/-- The first type slows down and turns as the second one does, and is no worse in all else. -/
structure Dominates (better worse : PlayerType ℝ) : Prop where
  decay_eq : better.decay = worse.decay
  inertiaMoment_eq : better.inertiaMoment = worse.inertiaMoment
  speedMax_le : worse.speedMax ≤ better.speedMax
  dashPower_le : worse.dashPowerRate * worse.effortMax ≤ better.dashPowerRate * better.effortMax
  kickableRadius_le : worse.kickableRadius ≤ better.kickableRadius
  catchableRadius_le : worse.catchableRadius ≤ better.catchableRadius

variable {better worse : PlayerType ℝ} {rules : Rules ℝ}

theorem Dominates.controlRadius_le (hDominates : better.Dominates worse) (rules : Rules ℝ)
    (isGoalie : Bool) :
    (Locomotion.ofType worse rules).controlRadius isGoalie ≤
      (Locomotion.ofType better rules).controlRadius isGoalie := by
  cases isGoalie with
  | false => exact hDominates.kickableRadius_le
  | true => exact hDominates.catchableRadius_le

theorem Dominates.outruns (hDominates : better.Dominates worse) (hPlausible : worse.IsPlausible)
    (hPower : 0 ≤ rules.maxDashPower) :
    (Locomotion.ofType better rules).Outruns (Locomotion.ofType worse rules) := by
  refine Locomotion.outruns_ofType hPlausible.decay_nonneg hPlausible.decay_lt_one
    hDominates.decay_eq ?_ hDominates.speedMax_le
  rw [Locomotion.acceleration, Locomotion.acceleration, mul_assoc, mul_assoc]
  exact mul_le_mul_of_nonneg_left hDominates.dashPower_le hPower

end PlayerType

namespace Reach

/-- Two players that stand, move and turn alike, with as much time and in the same role.  They may
differ in team, strength and control radius. -/
structure Resembles (one other : Reach ℝ) : Prop where
  rules_eq : one.rules = other.rules
  search_eq : one.search = other.search
  isGoalie_eq : one.isGoalie = other.isGoalie
  position_eq : one.player.position = other.player.position
  velocity_eq : one.player.velocity = other.player.velocity
  body_eq : one.player.body = other.player.body
  bonusStep_eq : one.player.bonusStep = other.player.bonusStep
  penaltyStep_eq : one.player.penaltyStep = other.player.penaltyStep
  decay_eq : one.motion.type.decay = other.motion.type.decay
  inertiaMoment_eq : one.motion.type.inertiaMoment = other.motion.type.inertiaMoment

/-- The first player is no weaker than the second one: its dashes go as far, and its radii are no
smaller, both as they are and as they count for its team. -/
structure IsNoWeaker (fast slow : Reach ℝ) : Prop where
  outruns : fast.motion.Outruns slow.motion
  speedMax_nonneg : 0 ≤ slow.motion.type.speedMax
  speedMax_le : slow.motion.type.speedMax ≤ fast.motion.type.speedMax
  radius_nonneg : ∀ isGoalie, 0 ≤ slow.motion.controlRadius isGoalie
  radius_le : ∀ isGoalie,
    slow.motion.controlRadius isGoalie ≤ fast.motion.controlRadius isGoalie
  shrink_le : ∀ isGoalie, slow.shrink (slow.motion.controlRadius isGoalie) ≤
    fast.shrink (fast.motion.controlRadius isGoalie)

namespace Resembles

variable {fast slow : Reach ℝ} (hAlike : fast.Resembles slow)

include hAlike

theorem wayToBall_eq (ball : Vec2 ℝ) (step : Nat) :
    fast.wayToBall ball step = slow.wayToBall ball step := by
  simp only [wayToBall, Locomotion.inertiaPoint, Locomotion.inertiaTravel, hAlike.position_eq,
    hAlike.velocity_eq, hAlike.decay_eq]

variable (hNoWeaker : fast.IsNoWeaker slow)

include hNoWeaker

theorem outpaces : fast.Outpaces slow where
  search_eq := hAlike.search_eq
  bonus_le := by rw [bonus, bonus, hAlike.bonusStep_eq]
  penalty_le := by rw [penalty, penalty, hAlike.penaltyStep_eq]
  control_le := by
    rw [control, control, rawControl, rawControl, hAlike.isGoalie_eq]
    exact hNoWeaker.shrink_le slow.isGoalie
  speedMax_nonneg := hNoWeaker.speedMax_nonneg
  speedMax_le := hNoWeaker.speedMax_le

variable (hAllowed : ∀ ball, fast.isAllowedAt ball = slow.isAllowedAt ball)

include hAllowed

theorem restingControl_le (ball : Vec2 ℝ) :
    slow.restingControl ball ≤ fast.restingControl ball := by
  unfold restingControl
  rw [hAllowed]
  split
  · exact (hAlike.outpaces hNoWeaker).control_le
  · exact hNoWeaker.shrink_le false

/-- A larger control radius and longer dashes bring every place of the ball closer, if words can
hold the counts of dashes to it. -/
theorem isCloserTo {ball : Vec2 ℝ} {step : Nat}
    (hFits : slow.dashCountTo ball step < 4294967296) : fast.IsCloserTo slow ball step := by
  have hControl := hAlike.restingControl_le hNoWeaker hAllowed ball
  refine ⟨fun hSlow => (hAllowed ball).trans hSlow, ?_, ?_, ?_⟩
  · rw [hAlike.position_eq]
  · unfold turnsTo turns
    rw [hAlike.wayToBall_eq, hAlike.rules_eq, hAlike.search_eq, hAlike.body_eq,
      hAlike.velocity_eq]
    exact Turning.count_le_count hAlike.decay_eq hAlike.inertiaMoment_eq slow.rules
      slow.player.velocity (restingControl_nonneg hNoWeaker.radius_nonneg ball) hControl (le_refl _)
      (fun _ => rfl)
  · refine dashesTo_le_of_dashCountTo_le ?_ hFits
    unfold dashCountTo
    rw [hAlike.wayToBall_eq]
    exact hNoWeaker.outruns.dashCount_le (sub_le_sub_left hControl _)

theorem controlsNow_of {ball : Vec2 ℝ} (hControls : slow.controlsNow ball = true) :
    fast.controlsNow ball = true := by
  simp only [controlsNow, rawControl, Bool.and_eq_true, decide_eq_true_eq,
    ExactReal.le_eq_true_iff, hAllowed, hAlike.position_eq, hAlike.penaltyStep_eq,
    hAlike.isGoalie_eq] at hControls ⊢
  obtain ⟨hFree, hPlace, hNorm⟩ := hControls
  exact ⟨hFree, hPlace, hNorm.trans (hNoWeaker.radius_le slow.isGoalie)⟩

/-- Of two players alike the one that is no weaker is predicted no later. -/
theorem step_le {trajectory : Trajectory ℝ} (hFit : slow.DashesFit trajectory)
    (hFirst : 0 < trajectory.size → slow.FirstStepFits trajectory) :
    fast.step trajectory ≤ slow.step trajectory := by
  refine (hAlike.outpaces hNoWeaker).step_le (hAlike.controlsNow_of hNoWeaker hAllowed)
    (by rw [hAlike.position_eq]) hFirst ?_ (hAlike.isCloserTo hNoWeaker hAllowed hFit.atRest)
  intro step ball hBall hPlace
  exact hAlike.isCloserTo hNoWeaker hAllowed (hFit.dashCountTo_lt hBall hPlace)

end Resembles

/-- A player of ours has no larger control radius than an opponent of the same type. -/
theorem shrink_teammate_le {ours theirs : Reach ℝ} (hOurs : ours.player.isTeammate = true)
    (hTheirs : theirs.player.isTeammate = false)
    (hShrink : 0 ≤ ours.search.teammateControlShrink) {radius : ℝ} (hRadius : 0 ≤ radius) :
    ours.shrink radius ≤ theirs.shrink radius := by
  simp only [shrink, hOurs, hTheirs, if_true, Bool.false_eq_true, if_false,
    ExactReal.positivePart_eq]
  exact max_le (by linarith) hRadius

end Reach

namespace Predictor

variable (predictor : Predictor ℝ) {slow fast : Option Int} {better worse : PlayerType ℝ}
  {rules : Rules ℝ}

/-- A type that dominates another one makes no player weaker. -/
theorem isNoWeaker_of_dominates
    (hSlow : predictor.types.get slow = Locomotion.ofType worse rules)
    (hFast : predictor.types.get fast = Locomotion.ofType better rules)
    (hPlausible : worse.IsPlausible) (hDominates : better.Dominates worse)
    (hPower : 0 ≤ rules.maxDashPower) (player : Kinematics ℝ) (isGoalie : Bool) :
    (predictor.reach { player with typeId := fast } isGoalie).IsNoWeaker
      (predictor.reach { player with typeId := slow } isGoalie) := by
  unfold reach
  rw [hSlow, hFast]
  refine ⟨hDominates.outruns hPlausible hPower, hPlausible.speedMax_nonneg,
    hDominates.speedMax_le, hPlausible.controlRadius_nonneg, hDominates.controlRadius_le rules, ?_⟩
  intro role
  have hRadius := hDominates.controlRadius_le rules role
  simp only [Reach.shrink, ExactReal.positivePart_eq]
  split
  · exact max_le_max_right 0 (sub_le_sub_right hRadius _)
  · exact hRadius

theorem resembles_of_dominates
    (hSlow : predictor.types.get slow = Locomotion.ofType worse rules)
    (hFast : predictor.types.get fast = Locomotion.ofType better rules)
    (hDominates : better.Dominates worse) (player : Kinematics ℝ) (isGoalie : Bool) :
    (predictor.reach { player with typeId := fast } isGoalie).Resembles
      (predictor.reach { player with typeId := slow } isGoalie) := by
  unfold reach
  rw [hSlow, hFast]
  exact ⟨rfl, rfl, rfl, rfl, rfl, rfl, rfl, rfl, hDominates.decay_eq, hDominates.inertiaMoment_eq⟩

/-- An opponent in the field is no weaker than a player of ours of the same type. -/
theorem isNoWeaker_opponent (hSlow : predictor.types.get slow = Locomotion.ofType worse rules)
    (hPlausible : worse.IsPlausible) (hShrink : 0 ≤ predictor.search.teammateControlShrink)
    (player : Kinematics ℝ) :
    (predictor.reach { player with typeId := slow, isTeammate := false } false).IsNoWeaker
      (predictor.reach { player with typeId := slow, isTeammate := true } false) := by
  unfold reach
  rw [hSlow]
  exact ⟨Locomotion.Outruns.refl _, hPlausible.speedMax_nonneg, le_refl _,
    hPlausible.controlRadius_nonneg, fun _ => le_refl _,
    fun isGoalie => Reach.shrink_teammate_le rfl rfl hShrink
      (hPlausible.controlRadius_nonneg isGoalie)⟩

/-- A better type is predicted no later, in both roles, as long as words can hold the counts of
dashes.  In the field one of ours is predicted no earlier than an opponent of the same type in its
place. -/
theorem predict_le_predict_of_dominates
    (hSlow : predictor.types.get slow = Locomotion.ofType worse rules)
    (hFast : predictor.types.get fast = Locomotion.ofType better rules)
    (hPlausible : worse.IsPlausible) (hDominates : better.Dominates worse)
    (hPower : 0 ≤ rules.maxDashPower) (hShrink : 0 ≤ predictor.search.teammateControlShrink)
    (player : Kinematics ℝ) (trajectory : Trajectory ℝ) :
    (∀ isGoalie,
      (predictor.reach { player with typeId := slow } isGoalie).DashesFit trajectory →
        predictor.predict { player with typeId := fast } trajectory isGoalie ≤
          predictor.predict { player with typeId := slow } trajectory isGoalie) ∧
    ((predictor.reach { player with typeId := slow, isTeammate := true } false).DashesFit
        trajectory →
      predictor.predict { player with typeId := slow, isTeammate := false } trajectory false ≤
        predictor.predict { player with typeId := slow, isTeammate := true } trajectory false) := by
  constructor
  · intro isGoalie hFit
    exact (predictor.resembles_of_dominates hSlow hFast hDominates player isGoalie).step_le
      (predictor.isNoWeaker_of_dominates hSlow hFast hPlausible hDominates hPower player isGoalie)
      (fun _ => rfl) hFit (hFit.firstStepFits hSlow hPlausible.speedMax_nonneg)
  · intro hFit
    refine Reach.Resembles.step_le ?_
      (predictor.isNoWeaker_opponent hSlow hPlausible hShrink player) (fun _ => rfl) hFit (hFit.firstStepFits hSlow hPlausible.speedMax_nonneg)
    exact ⟨rfl, rfl, rfl, rfl, rfl, rfl, rfl, rfl, rfl, rfl⟩

/-- A type that is faster than the default type and dashes harder. -/
noncomputable def sprinter : PlayerType ℝ :=
  { id := 4, speedMax := 9 * 8⁻¹, dashPowerRate := 125⁻¹ }

/-- A match in which some players are sprinters. -/
noncomputable def mixed : Predictor ℝ where
  rules := {}
  types := TypeRegistry.ofTypes {} [sprinter]
  search := {}

theorem get_none_mixed : mixed.types.get none = Locomotion.ofType {} {} := rfl

theorem get_sprinter_mixed : mixed.types.get (some 4) = Locomotion.ofType sprinter {} := rfl

/-- The drifting player stays near the centre spot. -/
theorem norm_wayToBall_drifter_le {role : Bool} {team : Bool} {step : Nat} (hStep : step ≤ 100) :
    ((mixed.reach { drifter 0 with typeId := none, isTeammate := team } role).wayToBall ⟨0, 0⟩
      step).norm ≤ 4000 := by
  generalize hReach : mixed.reach { drifter 0 with typeId := none, isTeammate := team } role = reach
  have hMotion : reach.motion = Locomotion.ofType {} {} := by rw [← hReach]; rfl
  have hVelocity : reach.player.velocity.norm = 1 := by
    rw [← hReach, Vec2.norm_eq, Real.sqrt_eq_one]
    norm_num [Predictor.reach, drifter]
  have hPlace : ((⟨0, 0⟩ : Vec2 ℝ) - reach.player.position).norm ≤ 2 := by
    rw [← hReach, Vec2.norm_eq, Real.sqrt_le_left (by norm_num)]
    norm_num [Predictor.reach, drifter]
  have hWay := reach.norm_wayToBall_le ⟨0, 0⟩ step
  have hDrift : reach.drift step ≤ step * reach.player.velocity.norm := by
    refine reach.motion.norm_inertiaTravel_le ?_ ?_ _ step
    · rw [hMotion]
      exact PlayerType.isPlausible_default.decay_nonneg
    · rw [hMotion]
      exact PlayerType.isPlausible_default.decay_lt_one
  have hCycles : (step : ℝ) ≤ 100 := by exact_mod_cast hStep
  rw [hVelocity, mul_one] at hDrift
  linarith

theorem dashesFit_drifter (role team : Bool) :
    (mixed.reach { drifter 0 with typeId := none, isTeammate := team } role).DashesFit
      ballAtRest := by
  have hMotion : (mixed.reach { drifter 0 with typeId := none, isTeammate := team } role).motion =
      Locomotion.ofType {} {} := rfl
  refine Reach.dashesFit_of_norm_le hMotion PlayerType.isPlausible_default
    (by norm_num [Locomotion.acceleration]) ?_ ?_
  · intro step ball hBall
    obtain rfl := eq_of_positionAt?_ballAtRest hBall
    obtain ⟨hStep, -⟩ := List.getElem?_eq_some_iff.mp hBall
    have hSize := (Trajectory.compute_hasShape (⟨0, 0⟩ : Vec2 ℝ) ⟨0, 0⟩ {} {}).size_le
    exact norm_wayToBall_drifter_le (hStep.le.trans hSize)
  · rw [last_ballAtRest]
    exact norm_wayToBall_drifter_le (Nat.le_refl 100)

/-- The sprinter in place of the drifting player is predicted no later. -/
theorem predict_sprinter_le_predict_drifter :
    (({} : PlayerType ℝ).IsPlausible ∧ sprinter.Dominates {} ∧
      0 ≤ ({} : Rules ℝ).maxDashPower ∧ 0 ≤ mixed.search.teammateControlShrink) ∧
    (mixed.reach { drifter 0 with typeId := none } true).DashesFit ballAtRest ∧
    (mixed.reach { drifter 0 with typeId := none, isTeammate := true } false).DashesFit
      ballAtRest ∧
    mixed.predict { drifter 0 with typeId := some 4 } ballAtRest true ≤
      mixed.predict { drifter 0 with typeId := none } ballAtRest true ∧
    mixed.predict { drifter 0 with typeId := none, isTeammate := false } ballAtRest false ≤
      mixed.predict { drifter 0 with typeId := none, isTeammate := true } ballAtRest false := by
  have hPlausible := PlayerType.isPlausible_default
  have hDominates : sprinter.Dominates {} := by
    constructor <;> norm_num [sprinter]
  have hPower : 0 ≤ ({} : Rules ℝ).maxDashPower := by norm_num
  have hShrink : 0 ≤ mixed.search.teammateControlShrink := by norm_num [mixed]
  obtain ⟨hTypes, hTeams⟩ := mixed.predict_le_predict_of_dominates get_none_mixed
    get_sprinter_mixed hPlausible hDominates hPower hShrink (drifter 0) ballAtRest
  have hTheirs := dashesFit_drifter true false
  have hOurs := dashesFit_drifter false true
  exact ⟨⟨hPlausible, hDominates, hPower, hShrink⟩, hTheirs, hOurs, hTypes true hTheirs,
    hTeams hOurs⟩

end Predictor
end SoccerWorld
