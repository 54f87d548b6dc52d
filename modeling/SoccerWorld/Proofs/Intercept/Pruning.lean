import SoccerWorld.Proofs.Ball.RollingLine
import SoccerWorld.Proofs.Geometry.ExactVector
import SoccerWorld.Proofs.Intercept.FirstStep
import SoccerWorld.Proofs.Locomotion.DashCount

/-!
# Skipped steps would have failed

The search for a reach step leaves out the first steps, from the distance to the ball's line, and
those at which not even full speed would do.  For a player that stands still neither test costs
anything in exact arithmetic: turning and dashing needs at least the time that full speed needs
(`Reach.IsStill.norm_le_of_isAchievable`), so what it achieves passes both tests
(`Reach.IsStill.firstStep_le`, `Reach.IsStill.not_isOutOfReach`).  The search and the one that
simulates every step agree (`Predictor.predict_eq_exhaustiveStep`).
-/

namespace SoccerWorld

namespace Locomotion

theorem inertiaPoint_zero (motion : Locomotion ℝ) (position : Vec2 ℝ) (n : Nat) :
    motion.inertiaPoint position Vec2.zero n = position := by
  have hTravel : motion.inertiaTravel Vec2.zero n = Vec2.zero := by
    unfold inertiaTravel
    dsimp only
    split
    · rfl
    · split
      · exact Vec2.zero_scale _
      · exact Vec2.zero_scale _
  rw [inertiaPoint, hTravel, Vec2.add_zero_eq]

end Locomotion

namespace Reach

/-! ## The first success -/

section FirstSuccess

variable {R : Type}

/-- Tests that agree at the steps that are searched have the same first success. -/
theorem firstSuccess_congr {test test' : Vec2 R → Nat → Bool} {trajectory : Trajectory R}
    {first : Nat}
    (hSame : ∀ step ball, trajectory.positionAt? step = some ball → first ≤ step →
      test ball step = test' ball step) :
    firstSuccess test trajectory first = firstSuccess test' trajectory first := by
  unfold firstSuccess
  congr 1
  refine List.find?_congr ?_
  intro sample hSample
  have hAt := List.mk_mem_zipIdx_iff_getElem?.mp (List.mem_of_mem_drop hSample)
  refine hSame sample.2 sample.1 hAt ?_
  obtain ⟨index, hIndex, rfl⟩ := List.mem_drop_iff_getElem.mp hSample
  rw [List.getElem_zipIdx, zero_add]
  exact Nat.le_add_right first index

/-- Steps that are left out do not matter where the test that leaves them out fails there anyway. -/
theorem firstSuccess_eq_of_skipped {quick full : Vec2 R → Nat → Bool} {trajectory : Trajectory R}
    {first : Nat}
    (hSame : ∀ step ball, trajectory.positionAt? step = some ball → first ≤ step →
      quick ball step = full ball step)
    (hSkipped : ∀ step ball, trajectory.positionAt? step = some ball → full ball step = true →
      first ≤ step) :
    firstSuccess quick trajectory first = firstSuccess full trajectory 0 := by
  have hFront : (trajectory.positions.zipIdx.take first).find?
      (fun sample => full sample.1 sample.2) = none := by
    rw [List.find?_eq_none]
    intro sample hSample hPasses
    have hAt := List.mk_mem_zipIdx_iff_getElem?.mp (List.mem_of_mem_take hSample)
    have hLate := hSkipped sample.2 sample.1 hAt hPasses
    obtain ⟨index, hIndex, rfl⟩ := List.mem_take_iff_getElem.mp hSample
    rw [List.getElem_zipIdx, zero_add] at hLate
    omega
  rw [firstSuccess_congr hSame]
  unfold firstSuccess
  rw [List.drop_zero]
  nth_rewrite 2 [← List.take_append_drop first trajectory.positions.zipIdx]
  rw [List.find?_append, hFront, Option.none_or]

/-- The first success is the least step of the window at which the test succeeds. -/
theorem firstSuccess_eq_some_iff {test : Vec2 R → Nat → Bool} {trajectory : Trajectory R}
    {step : Nat} :
    firstSuccess test trajectory 0 = some step ↔
      IsLeast {step | ∃ ball, trajectory.positionAt? step = some ball ∧ test ball step = true}
        step := by
  unfold firstSuccess
  rw [List.drop_zero, Option.map_eq_some_iff]
  constructor
  · rintro ⟨sample, hFound, rfl⟩
    obtain ⟨hPasses, index, hIndex, hSample, hEarlier⟩ := List.find?_eq_some_iff_getElem.mp hFound
    rw [List.length_zipIdx] at hIndex
    rw [List.getElem_zipIdx, zero_add] at hSample
    obtain rfl := hSample
    refine ⟨⟨_, List.getElem?_eq_getElem hIndex, hPasses⟩, ?_⟩
    rintro other ⟨ball, hBall, hTest⟩
    by_contra hBefore
    obtain ⟨hOther, rfl⟩ := List.getElem?_eq_some_iff.mp hBall
    have hFails := hEarlier other (not_le.mp hBefore)
    rw [List.getElem_zipIdx, zero_add, hTest] at hFails
    contradiction
  · rintro ⟨⟨ball, hBall, hTest⟩, hLeast⟩
    obtain ⟨hInside, rfl⟩ := List.getElem?_eq_some_iff.mp hBall
    refine ⟨(trajectory.positions[step], step), ?_, rfl⟩
    rw [List.find?_eq_some_iff_getElem]
    refine ⟨hTest, step, by rw [List.length_zipIdx]; exact hInside, ?_, ?_⟩
    · rw [List.getElem_zipIdx, zero_add]
    · intro earlier hBefore
      rw [List.getElem_zipIdx, zero_add, Bool.not_eq_true', Bool.eq_false_iff]
      intro hPasses
      exact absurd (hLeast ⟨_, List.getElem?_eq_getElem (by omega), hPasses⟩) (not_le.mpr hBefore)

theorem firstSuccess_eq_none_iff {test : Vec2 R → Nat → Bool} {trajectory : Trajectory R} :
    firstSuccess test trajectory 0 = none ↔
      ∀ step ball, trajectory.positionAt? step = some ball → test ball step = false := by
  unfold firstSuccess
  rw [List.drop_zero, Option.map_eq_none_iff, List.find?_eq_none]
  constructor
  · intro hFails step ball hBall
    rw [Bool.eq_false_iff]
    exact hFails (ball, step) (List.mk_mem_zipIdx_iff_getElem?.mpr hBall)
  · intro hFails sample hSample
    rw [hFails sample.2 sample.1 (List.mk_mem_zipIdx_iff_getElem?.mp hSample)]
    exact Bool.false_ne_true

end FirstSuccess

/-- The reach step, said without a search. -/
structure IsReachStep {R : Type} [Scalar R] (reach : Reach R) (trajectory : Trajectory R)
    (result : UInt32) : Prop where
  control : reach.controlsNow trajectory.origin = true → result = 0
  least : reach.controlsNow trajectory.origin = false → ∀ step,
    IsLeast {step | ∃ ball, trajectory.positionAt? step = some ball ∧
      reach.isAllowedAt ball = true ∧ reach.isAchievable ball step = true} step →
        result = Word.ofInt step
  resting : reach.controlsNow trajectory.origin = false →
    (∀ step ball, trajectory.positionAt? step = some ball → reach.isAllowedAt ball = true →
      reach.isAchievable ball step = false) → result = reach.restingStep trajectory

/-- Neither test leaves out a step at which turning and dashing succeeds. -/
def SkipsNothing {R : Type} [Scalar R] (reach : Reach R) (trajectory : Trajectory R) : Prop :=
  ∀ step ball, trajectory.positionAt? step = some ball → reach.isAchievable ball step = true →
    reach.firstStep trajectory ≤ step ∧ reach.isOutOfReach ball step = false

theorem SkipsNothing.step_eq_exhaustiveStep {R : Type} [Scalar R] {reach : Reach R}
    {trajectory : Trajectory R} (hSkips : reach.SkipsNothing trajectory) :
    reach.step trajectory = reach.exhaustiveStep trajectory := by
  unfold step exhaustiveStep stepBy
  rw [firstSuccess_eq_of_skipped]
  · intro step ball hBall _
    cases hAchievable : reach.isAchievable ball step with
    | false => rw [succeedsAt, hAchievable, Bool.and_false]
    | true =>
        rw [succeedsAt, hAchievable, (hSkips step ball hBall hAchievable).2]
        rfl
  · intro step ball hBall hFull
    rw [Bool.and_eq_true] at hFull
    exact (hSkips step ball hBall hFull.2).1

theorem isReachStep_exhaustiveStep {R : Type} [Scalar R] (reach : Reach R)
    (trajectory : Trajectory R) :
    reach.IsReachStep trajectory (reach.exhaustiveStep trajectory) := by
  unfold exhaustiveStep stepBy
  constructor
  · intro hControl
    rw [if_pos hControl]
  · intro hControl step hLeast
    have hFirst : firstSuccess (fun ball step => reach.isAllowedAt ball &&
        reach.isAchievable ball step) trajectory 0 = some step := by
      rw [firstSuccess_eq_some_iff]
      simp only [Bool.and_eq_true]
      exact hLeast
    rw [hControl, if_neg Bool.false_ne_true, hFirst]
  · intro hControl hNever
    have hNone : firstSuccess (fun ball step => reach.isAllowedAt ball &&
        reach.isAchievable ball step) trajectory 0 = none := by
      rw [firstSuccess_eq_none_iff]
      intro step ball hBall
      rw [Bool.and_eq_false_imp]
      exact hNever step ball hBall
    rw [hControl, if_neg Bool.false_ne_true, hNone]

/-! ## What turning and dashing achieves, full speed achieves -/

/-- A player that stands still and dashes no faster than its top speed, against a search with some
slack. -/
structure IsStill (reach : Reach ℝ) : Prop where
  velocity_eq : reach.player.velocity = Vec2.zero
  speedMax_ge : (10 ^ 6)⁻¹ ≤ reach.motion.type.speedMax
  reachMargin_ge : (10 ^ 9)⁻¹ ≤ reach.search.reachMargin
  le_cyclesToReach_mul : ∀ dist, reach.motion.dashCount dist < 4294967296 →
    dist ≤ (reach.motion.cyclesToReach dist).toNat * reach.motion.type.speedMax + (10 ^ 9)⁻¹

/-- A player that stands still, of a type that moves forward, against a search with some slack. -/
structure IsExact (reach : Reach ℝ) (type : PlayerType ℝ) (rules : Rules ℝ) : Prop where
  velocity_eq : reach.player.velocity = Vec2.zero
  motion_eq : reach.motion = Locomotion.ofType type rules
  decay_nonneg : 0 ≤ type.decay
  acceleration_nonneg : 0 ≤ Locomotion.acceleration type rules
  speedMax_ge : (10 ^ 6)⁻¹ ≤ type.speedMax
  reachMargin_ge : (10 ^ 9)⁻¹ ≤ reach.search.reachMargin

theorem IsExact.isStill {reach : Reach ℝ} {type : PlayerType ℝ} {rules : Rules ℝ}
    (hExact : reach.IsExact type rules) : reach.IsStill where
  velocity_eq := hExact.velocity_eq
  speedMax_ge := by
    rw [hExact.motion_eq]
    exact hExact.speedMax_ge
  reachMargin_ge := hExact.reachMargin_ge
  le_cyclesToReach_mul := by
    intro dist hFits
    rw [Locomotion.toNat_cyclesToReach _ hFits]
    rw [hExact.motion_eq] at hFits ⊢
    exact Locomotion.le_dashCount_mul type rules hExact.speedMax_ge hExact.decay_nonneg
      hExact.acceleration_nonneg dist hFits

variable {reach : Reach ℝ} (hStill : reach.IsStill)

include hStill

theorem IsStill.wayToBall_eq (ball : Vec2 ℝ) (step : Nat) :
    reach.wayToBall ball step = ball - reach.player.position := by
  rw [wayToBall, hStill.velocity_eq, Locomotion.inertiaPoint_zero]

/-- Whoever turns and dashes to the ball has had the time to get there at full speed. -/
theorem IsStill.norm_le_of_isAchievable {ball : Vec2 ℝ} {step : Nat}
    (hFits : reach.motion.dashCount ((ball - reach.player.position).norm - reach.control) <
      4294967296)
    (hAchievable : reach.isAchievable ball step = true) :
    ∃ cycles : Nat, (cycles : ℤ) = step + reach.bonus - reach.penalty ∧
      (ball - reach.player.position).norm ≤
        reach.control + cycles * reach.motion.type.speedMax + (10 ^ 9)⁻¹ := by
  have hZero : (0.0 : ℝ) = 0 := by norm_num
  have hSpeed : 0 ≤ reach.motion.type.speedMax := le_trans (by norm_num) hStill.speedMax_ge
  unfold isAchievable at hAchievable
  rw [hStill.wayToBall_eq] at hAchievable
  dsimp only at hAchievable
  generalize reach.turns reach.control (ball - reach.player.position) = turns at hAchievable
  generalize (ball - reach.player.position).norm = dist at hFits hAchievable ⊢
  have hBonus : 0 ≤ reach.bonus := Int.natCast_nonneg _
  by_cases hLate : (step : ℤ) - turns - reach.penalty < 0
  · rw [if_pos hLate] at hAchievable
    contradiction
  · obtain ⟨cycles, hCycles⟩ : ∃ cycles : Nat, (cycles : ℤ) = step + reach.bonus - reach.penalty :=
      ⟨(step + reach.bonus - reach.penalty).toNat, Int.toNat_of_nonneg (by omega)⟩
    refine ⟨cycles, hCycles, ?_⟩
    rw [if_neg hLate] at hAchievable
    by_cases hNear : dist - reach.control ≤ 0
    · have hCovered : 0 ≤ cycles * reach.motion.type.speedMax :=
        mul_nonneg (Nat.cast_nonneg cycles) hSpeed
      linarith
    · rw [if_neg (fun hLe => hNear (hZero ▸ (ExactReal.le_eq_true_iff _ _).mp hLe)),
        decide_eq_true_eq] at hAchievable
      have hDashes : (reach.motion.cyclesToReach (dist - reach.control)).toNat ≤ cycles := by
        omega
      have hWay := hStill.le_cyclesToReach_mul (dist - reach.control) hFits
      have hTime : (reach.motion.cyclesToReach (dist - reach.control)).toNat *
          reach.motion.type.speedMax ≤ cycles * reach.motion.type.speedMax :=
        mul_le_mul_of_nonneg_right (by exact_mod_cast hDashes) hSpeed
      linarith

theorem IsStill.not_isOutOfReach {ball : Vec2 ℝ} {step : Nat}
    (hFits : reach.motion.dashCount ((ball - reach.player.position).norm - reach.control) <
      4294967296)
    (hAchievable : reach.isAchievable ball step = true) :
    reach.isOutOfReach ball step = false := by
  obtain ⟨cycles, hCycles, hNorm⟩ := hStill.norm_le_of_isAchievable hFits hAchievable
  have hMargin := hStill.reachMargin_ge
  have hRadius : (ball - reach.player.position).norm ≤ reach.fullSpeedReach step := by
    unfold fullSpeedReach
    dsimp only
    rw [ExactReal.positivePart_eq, ← hCycles]
    show _ ≤ max (reach.control + reach.motion.type.speedMax * ((cycles : ℤ) : ℝ) +
      reach.search.reachMargin) 0
    rw [Int.cast_natCast]
    refine le_max_of_le_left ?_
    linarith
  unfold isOutOfReach
  rw [Bool.eq_false_iff, ne_eq, ExactReal.lt_eq_true_iff, not_lt, ← Vec2.norm_mul_norm]
  exact mul_self_le_mul_self (Vec2.norm_nonneg _) hRadius

theorem IsStill.firstStep_le {trajectory : Trajectory ℝ} {ball : Vec2 ℝ} {step : Nat}
    (hLine : Vec2.IsOnLine trajectory.origin trajectory.initialVelocity ball)
    (hFits : reach.motion.dashCount ((ball - reach.player.position).norm - reach.control) <
      4294967296)
    (hAchievable : reach.isAchievable ball step = true) :
    reach.firstStep trajectory ≤ step := by
  obtain ⟨cycles, hCycles, hNorm⟩ := hStill.norm_le_of_isAchievable hFits hAchievable
  have hSpeedMax := hStill.speedMax_ge
  have hFirst := firstStep_le_max (reach.cyclesToLine_nonneg trajectory)
  rw [cyclesToLine_eq_floor, max_eq_left hSpeedMax] at hFirst
  generalize reach.motion.type.speedMax = speedMax at hNorm hSpeedMax hFirst
  have hSpeedPos : 0 < speedMax := lt_of_lt_of_le (by norm_num) hSpeedMax
  obtain ⟨t, rfl⟩ := hLine
  have hPerpendicular := Vec2.distanceToLine_le_norm trajectory.origin trajectory.initialVelocity
    reach.player.position t
  change Vec2.distanceToLine trajectory.origin trajectory.direction reach.player.position ≤ _
    at hPerpendicular
  generalize Vec2.distanceToLine trajectory.origin trajectory.direction
    reach.player.position = perpendicular at hPerpendicular hFirst
  -- The slack of the dash table is less than one cycle.
  have hShare : max (perpendicular - reach.control) 0 / speedMax < (cycles : ℤ) + 1 := by
    rw [div_lt_iff₀ hSpeedPos, max_lt_iff]
    have hCovered : 0 ≤ cycles * speedMax := mul_nonneg (Nat.cast_nonneg cycles) hSpeedPos.le
    push_cast
    constructor <;> linarith
  have hFloor : ⌊max (perpendicular - reach.control) 0 / speedMax⌋ < (cycles : ℤ) + 1 := by
    rw [Int.floor_lt]
    push_cast at hShare ⊢
    exact hShare
  omega

end Reach

namespace Predictor

/-- For a player that stands still the search that skips steps finds what the simulation of every
step finds. -/
theorem predict_eq_exhaustiveStep (predictor : Predictor ℝ) (player : Kinematics ℝ)
    (isGoalie : Bool) (hVelocity : player.velocity = Vec2.zero)
    (type : PlayerType ℝ) (typeRules : Rules ℝ)
    (hMotion : predictor.types.get player.typeId = Locomotion.ofType type typeRules)
    (hDecay : 0 ≤ type.decay) (hAcceleration : 0 ≤ Locomotion.acceleration type typeRules)
    (hSpeedMax : (10 ^ 6)⁻¹ ≤ type.speedMax) (hMargin : (10 ^ 9)⁻¹ ≤ predictor.search.reachMargin)
    (position velocity : Vec2 ℝ) (rules : Rules ℝ) (flight : FlightLimits ℝ)
    (hFits : ∀ ball ∈ (Trajectory.compute position velocity rules flight).positions,
      (predictor.reach player isGoalie).motion.dashCount
        ((ball - player.position).norm - (predictor.reach player isGoalie).control) <
          4294967296) :
    predictor.predict player (Trajectory.compute position velocity rules flight) isGoalie =
        (predictor.reach player isGoalie).exhaustiveStep
          (Trajectory.compute position velocity rules flight) ∧
      (predictor.reach player isGoalie).IsReachStep
        (Trajectory.compute position velocity rules flight)
        (predictor.predict player (Trajectory.compute position velocity rules flight) isGoalie) ∧
      (predictor.reach player isGoalie).SkipsNothing
        (Trajectory.compute position velocity rules flight) := by
  have hExact : (predictor.reach player isGoalie).IsExact type typeRules :=
    ⟨hVelocity, hMotion, hDecay, hAcceleration, hSpeedMax, hMargin⟩
  generalize hTrajectory : Trajectory.compute position velocity rules flight = trajectory at hFits ⊢
  have hOrigin : trajectory.origin = position := by
    rw [← hTrajectory, Trajectory.origin_compute]
  have hDirection : trajectory.initialVelocity = velocity := by
    rw [← hTrajectory]
    rfl
  have hLine : ∀ point ∈ trajectory.positions,
      Vec2.IsOnLine trajectory.origin trajectory.initialVelocity point := by
    rw [hOrigin, hDirection, ← hTrajectory]
    exact Trajectory.isOnLine_of_mem_compute position velocity rules flight
  have hSkips : (predictor.reach player isGoalie).SkipsNothing trajectory := by
    intro step ball hBall hAchievable
    have hMem := List.mem_of_getElem? hBall
    exact ⟨hExact.isStill.firstStep_le (hLine ball hMem) (hFits ball hMem) hAchievable,
      hExact.isStill.not_isOutOfReach (hFits ball hMem) hAchievable⟩
  have hSame : predictor.predict player trajectory isGoalie =
      (predictor.reach player isGoalie).exhaustiveStep trajectory :=
    hSkips.step_eq_exhaustiveStep
  refine ⟨hSame, ?_, hSkips⟩
  rw [hSame]
  exact Reach.isReachStep_exhaustiveStep _ trajectory

/-- A match in which all players are of the default type. -/
noncomputable def homogeneous : Predictor ℝ where
  rules := {}
  types := TypeRegistry.homogeneous {}
  search := {}

/-- One of ours stands where the ball rolls to. -/
noncomputable def receiver : Kinematics ℝ :=
  Kinematics.atRest ⟨5, 0⟩ Angle.zero true

/-- The first two cycles of a pass. -/
noncomputable def pass : Trajectory ℝ :=
  Trajectory.compute ⟨0, 0⟩ ⟨1, 0⟩ {} { maxSteps := 2 }

theorem mem_positions_pass {ball : Vec2 ℝ} (hBall : ball ∈ pass.positions) :
    ball = ⟨0, 0⟩ ∨ ball = ⟨0, 0⟩ + ⟨1, 0⟩ := by
  have hPositions : pass.positions = (Trajectory.follow
      (Trajectory.Limits.ofConfig {} { maxSteps := 2 }) 2 [] (⟨0, 0⟩ : Vec2 ℝ) ⟨1, 0⟩).1 := rfl
  rw [hPositions, Trajectory.follow] at hBall
  split at hBall
  · exact Or.inl (List.mem_singleton.mp hBall)
  · -- The second sample is the last one, whatever ends the list.
    rw [Trajectory.follow] at hBall
    split at hBall
    · exact List.mem_pair.mp hBall
    · next hNone => exact absurd hNone (Trajectory.ending?_ne_none _ _ _ (Nat.le_refl 2))

theorem predict_eq_exhaustiveStep_receiver :
    receiver.velocity = Vec2.zero ∧
      homogeneous.types.get receiver.typeId = Locomotion.ofType {} {} ∧
      (0 ≤ ({} : PlayerType ℝ).decay ∧ 0 ≤ Locomotion.acceleration ({} : PlayerType ℝ) {} ∧
        (10 ^ 6)⁻¹ ≤ ({} : PlayerType ℝ).speedMax ∧ (10 ^ 9)⁻¹ ≤ homogeneous.search.reachMargin) ∧
      (∀ ball ∈ pass.positions, (homogeneous.reach receiver false).motion.dashCount
        ((ball - receiver.position).norm - (homogeneous.reach receiver false).control) <
          4294967296) ∧
      homogeneous.predict receiver pass false =
        (homogeneous.reach receiver false).exhaustiveStep pass := by
  have hDecay : 0 ≤ ({} : PlayerType ℝ).decay := by norm_num
  have hAcceleration : 0 ≤ Locomotion.acceleration ({} : PlayerType ℝ) {} := by
    norm_num [Locomotion.acceleration]
  have hSpeedMax : (10 ^ 6)⁻¹ ≤ ({} : PlayerType ℝ).speedMax := by norm_num
  have hMargin : (10 ^ 9)⁻¹ ≤ homogeneous.search.reachMargin := by
    norm_num [homogeneous]
  have hControl : 0 ≤ (homogeneous.reach receiver false).control := by
    show 0 ≤ Scalar.positivePart _
    rw [ExactReal.positivePart_eq]
    exact le_max_right _ _
  have hFits : ∀ ball ∈ pass.positions, (homogeneous.reach receiver false).motion.dashCount
      ((ball - receiver.position).norm - (homogeneous.reach receiver false).control) <
        4294967296 := by
    intro ball hBall
    refine Locomotion.dashCount_lt {} {} hDecay hAcceleration (by norm_num) ?_
    have hNorm : (ball - receiver.position).norm ≤ 5 := by
      rw [Vec2.norm_eq, Real.sqrt_le_left (by norm_num)]
      rcases mem_positions_pass hBall with rfl | rfl
      · norm_num [receiver, Kinematics.atRest]
      · norm_num [receiver, Kinematics.atRest]
    linarith
  exact ⟨rfl, rfl, ⟨hDecay, hAcceleration, hSpeedMax, hMargin⟩, hFits,
    (predict_eq_exhaustiveStep homogeneous receiver false rfl {} {} rfl hDecay hAcceleration
      hSpeedMax hMargin ⟨0, 0⟩ ⟨1, 0⟩ {} { maxSteps := 2 } hFits).1⟩

end Predictor

end SoccerWorld
