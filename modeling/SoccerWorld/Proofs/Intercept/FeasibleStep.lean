import SoccerWorld.Proofs.Intercept.Pruning

/-!
# What a predicted step says

A prediction ends in one of three ways (`Reach.step_cases`): the ball is under control, or the
search succeeds at a step of the window, or it falls back on the resting place.  The fallback never
gives a step inside the window (`Reach.lastStep_le_restingStep`), so a step inside the window is one
that was searched and found.

Predicted steps are words.  A step that no word can hold is cut off, which is no other than dropping
its higher bits as long as the window has no more samples than there are words
(`Reach.wrappingStep_eq_step`).

`Reach.IsFeasible` says in lengths and cycles what the search demands of a step.  A predicted step
inside the window is the least feasible one from the first searched step on, and without a feasible
step the prediction is not inside the window (`Predictor.isSound_predict`).
-/

namespace SoccerWorld

/-- Number of the last step of the window.  Like every predicted step it is cut off at the largest
word, which only a window of more than 2 ^ 32 samples leads beyond. -/
def Trajectory.lastStep {R : Type} [Scalar R] (trajectory : Trajectory R) : Nat :=
  min (trajectory.size - 1) 4294967295

namespace Reach

section Outcomes

variable {R : Type}

/-- The first success from some step on is the least step from there on at which the test
succeeds. -/
theorem firstSuccess_eq_some_iff_isLeast {test : Vec2 R → Nat → Bool}
    {trajectory : Trajectory R} {first step : Nat} :
    firstSuccess test trajectory first = some step ↔
      IsLeast {step | first ≤ step ∧
        ∃ ball, trajectory.positionAt? step = some ball ∧ test ball step = true} step := by
  -- Leaving steps out is the same as failing at them.
  have hMasked : firstSuccess test trajectory first =
      firstSuccess (fun ball step => decide (first ≤ step) && test ball step) trajectory 0 := by
    refine firstSuccess_eq_of_skipped ?_ ?_
    · intro step ball _ hFrom
      rw [decide_eq_true hFrom, Bool.true_and]
    · intro step ball _ hPasses
      rw [Bool.and_eq_true, decide_eq_true_eq] at hPasses
      exact hPasses.1
  have hSteps : {step | ∃ ball, trajectory.positionAt? step = some ball ∧
        (decide (first ≤ step) && test ball step) = true} =
      {step | first ≤ step ∧
        ∃ ball, trajectory.positionAt? step = some ball ∧ test ball step = true} := by
    ext step
    simp only [Set.mem_ofPred_eq, Bool.and_eq_true, decide_eq_true_eq]
    constructor
    · rintro ⟨ball, hBall, hFrom, hTest⟩
      exact ⟨hFrom, ball, hBall, hTest⟩
    · rintro ⟨hFrom, ball, hBall, hTest⟩
      exact ⟨ball, hBall, hFrom, hTest⟩
  rw [hMasked, firstSuccess_eq_some_iff, hSteps]

variable [Scalar R]

/-- The steps of the window that are searched and at which the search succeeds. -/
def successes (reach : Reach R) (trajectory : Trajectory R) : Set Nat :=
  {step | reach.firstStep trajectory ≤ step ∧
    ∃ ball, trajectory.positionAt? step = some ball ∧ reach.succeedsAt ball step = true}

variable (reach : Reach R) (trajectory : Trajectory R)

/-- A prediction ends in one of three ways. -/
theorem step_cases :
    (reach.controlsNow trajectory.origin = true ∧ reach.step trajectory = 0) ∨
      (reach.controlsNow trajectory.origin = false ∧
        ∃ found, IsLeast (reach.successes trajectory) found ∧
          reach.step trajectory = Word.ofInt found) ∨
      (reach.controlsNow trajectory.origin = false ∧ reach.successes trajectory = ∅ ∧
        reach.step trajectory = reach.restingStep trajectory) := by
  unfold step stepBy
  cases hControl : reach.controlsNow trajectory.origin with
  | true => exact Or.inl ⟨rfl, if_pos rfl⟩
  | false =>
      rw [if_neg Bool.false_ne_true]
      cases hSearch : firstSuccess reach.succeedsAt trajectory (reach.firstStep trajectory) with
      | some found =>
          exact Or.inr (Or.inl ⟨rfl, found, firstSuccess_eq_some_iff_isLeast.mp hSearch, rfl⟩)
      | none =>
          refine Or.inr (Or.inr ⟨rfl, ?_, rfl⟩)
          -- A set of steps that is not empty has a least one, which the search would have found.
          by_contra hSome
          have hLeast := isLeast_csInf (Set.nonempty_iff_ne_empty.mpr hSome)
          rw [firstSuccess_eq_some_iff_isLeast.mpr hLeast] at hSearch
          contradiction

/-- The reach step if a step that is too large for a word loses its higher bits, in the simulation
and in the result, where `step` keeps it or cuts it off. -/
def wrappingStep : UInt32 :=
  if reach.controlsNow trajectory.origin then 0
  else
    match firstSuccess (fun ball step => reach.isAllowedAt ball &&
        (!reach.isOutOfReach ball step && reach.isAchievable ball (UInt32.ofNat step).toNat))
      trajectory (reach.firstStep trajectory) with
    | some step => UInt32.ofNat step
    | none => reach.restingStep trajectory

/-- In windows of no more samples than there are words it makes no difference what becomes of steps
that are too large for a word. -/
theorem wrappingStep_eq_step (hSize : trajectory.size ≤ 4294967296) :
    reach.wrappingStep trajectory = reach.step trajectory := by
  have hInside : ∀ step ball, trajectory.positionAt? step = some ball → step < 4294967296 :=
    fun step ball hBall => (List.getElem?_eq_some_iff.mp hBall).1.trans_le hSize
  have hTests : firstSuccess (fun ball step => reach.isAllowedAt ball &&
        (!reach.isOutOfReach ball step && reach.isAchievable ball (UInt32.ofNat step).toNat))
      trajectory (reach.firstStep trajectory) =
        firstSuccess reach.succeedsAt trajectory (reach.firstStep trajectory) := by
    refine firstSuccess_congr ?_
    intro step ball hBall _
    rw [UInt32.toNat_ofNat_of_lt' (hInside step ball hBall), succeedsAt]
  unfold wrappingStep step stepBy
  rw [hTests]
  cases hSearch : firstSuccess reach.succeedsAt trajectory (reach.firstStep trajectory) with
  | none => rfl
  | some found =>
      obtain ⟨-, ball, hBall, -⟩ := (firstSuccess_eq_some_iff_isLeast.mp hSearch).1
      have hFound := hInside found ball hBall
      have hWord : UInt32.ofNat found = Word.ofInt found := by
        unfold Word.ofInt
        rw [if_neg (by omega), if_pos (by omega), Int.toNat_natCast]
      dsimp only
      rw [hWord]

theorem step_eq_zero_of_controlsNow (hControls : reach.controlsNow trajectory.origin = true) :
    reach.step trajectory = 0 := by
  rw [step, stepBy, if_pos hControls]

/-- The fallback is the estimate, but no step before the last one, as far as a word can count. -/
theorem toNat_restingStep :
    ((reach.restingStep trajectory).toNat : Int) =
      min (max (reach.restingEstimate trajectory) ((trajectory.size - 1 : Nat) : Int))
        4294967295 := by
  rw [restingStep, Word.toNat_ofInt]
  omega

/-- The fallback leads to no step inside the window. -/
theorem lastStep_le_restingStep :
    trajectory.lastStep ≤ (reach.restingStep trajectory).toNat := by
  have hResting := reach.toNat_restingStep trajectory
  unfold Trajectory.lastStep
  omega

/-- A step at which the search succeeds is not in the lockout. -/
theorem penalty_le_of_succeedsAt {ball : Vec2 R} {step : Nat}
    (hSucceeds : reach.succeedsAt ball step = true) : reach.penalty ≤ step := by
  unfold succeedsAt at hSucceeds
  rw [Bool.and_eq_true, Bool.and_eq_true] at hSucceeds
  have hAchievable := hSucceeds.2.2
  by_contra hLocked
  unfold isAchievable at hAchievable
  dsimp only at hAchievable
  rw [if_pos (by omega)] at hAchievable
  contradiction

theorem isAllowedAt_of_succeedsAt {ball : Vec2 R} {step : Nat}
    (hSucceeds : reach.succeedsAt ball step = true) : reach.isAllowedAt ball = true := by
  unfold succeedsAt at hSucceeds
  rw [Bool.and_eq_true] at hSucceeds
  exact hSucceeds.1

/-- What a search in the window finds comes after the lockout and in the window. -/
theorem mem_successes_bounds {step : Nat} (hStep : step ∈ reach.successes trajectory) :
    reach.player.penaltyStep.toNat ≤ step ∧ step < trajectory.size := by
  obtain ⟨-, ball, hBall, hSucceeds⟩ := hStep
  have hPenalty := reach.penalty_le_of_succeedsAt hSucceeds
  unfold penalty at hPenalty
  obtain ⟨hInside, -⟩ := List.getElem?_eq_some_iff.mp hBall
  exact ⟨Int.ofNat_le.mp hPenalty, hInside⟩

/-- A predicted step that the search has found is at most every step that it could have found. -/
theorem step_le_of_mem_successes {found : Nat} (hFound : found ∈ reach.successes trajectory) :
    (reach.step trajectory).toNat ≤ found := by
  rcases reach.step_cases trajectory with ⟨-, hStep⟩ | ⟨-, least, hLeast, hStep⟩ | ⟨-, hNone, -⟩
  · rw [hStep]
    exact Nat.zero_le found
  · have hWord := Word.toNat_ofInt_le least
    have hLess := hLeast.2 hFound
    rw [hStep]
    omega
  · rw [hNone] at hFound
    contradiction

/-- No prediction is later than both the estimate and the end of the window. -/
theorem step_le_max : ((reach.step trajectory).toNat : Int) ≤
    max (reach.restingEstimate trajectory) (trajectory.size : Int) := by
  rcases reach.step_cases trajectory with ⟨-, hStep⟩ | ⟨-, found, hLeast, hStep⟩ | ⟨-, -, hStep⟩
  · rw [hStep]
    exact le_max_of_le_right (Int.natCast_nonneg _)
  · have hInside := (reach.mem_successes_bounds trajectory hLeast.1).2
    have hWord := Word.toNat_ofInt_le found
    rw [hStep]
    omega
  · have hResting := reach.toNat_restingStep trajectory
    rw [hStep]
    omega

end Outcomes

/-! ## Feasible steps in exact arithmetic -/

/-- The player controls the ball in this cycle. -/
structure IsInControl (reach : Reach ℝ) (ball : Vec2 ℝ) : Prop where
  /-- No lockout is left. -/
  penaltyStep_eq : reach.player.penaltyStep = 0
  /-- A goalie controls the ball in its own penalty area only. -/
  contains : reach.isGoalie = true → reach.penaltyArea.contains ball = true
  /-- The ball lies within the control radius of the role, which is not made smaller here. -/
  norm_le : (ball - reach.player.position).norm ≤ reach.motion.controlRadius reach.isGoalie

/-- What the search demands of a step at which the ball is at a place. -/
structure IsFeasible (reach : Reach ℝ) (ball : Vec2 ℝ) (step : Nat) : Prop where
  /-- The lockout is over. -/
  penalty_le : reach.penalty ≤ step
  /-- A goalie reaches the ball in its own penalty area only. -/
  contains : reach.isGoalie = true → reach.penaltyArea.contains ball = true
  /-- Full speed would bring the player to the ball, from where it stands now. -/
  normSquared_le : (ball - reach.player.position).normSquared ≤
    (max 0 (reach.control +
      reach.motion.type.speedMax * ((step + reach.bonus - reach.penalty : ℤ) : ℝ) +
        reach.search.reachMargin)) ^ 2
  /-- There is time for the turns after the lockout. -/
  turns_le : (reach.turns reach.control (reach.wayToBall ball step) : ℤ) + reach.penalty ≤ step
  /-- Inertia alone brings the player to the ball, or there is time for the dashes, of which the
  bonus that the turns have left over is taken off. -/
  arrives : (reach.wayToBall ball step).norm ≤ reach.control ∨
    ((reach.motion.cyclesToReach ((reach.wayToBall ball step).norm - reach.control)).toNat : ℤ) -
        max 0 (reach.bonus - reach.turns reach.control (reach.wayToBall ball step)) ≤
      step - reach.turns reach.control (reach.wayToBall ball step) - reach.penalty

/-- The feasible steps of the window from the first searched step on. -/
def feasibleSteps (reach : Reach ℝ) (trajectory : Trajectory ℝ) : Set Nat :=
  {step | reach.firstStep trajectory ≤ step ∧
    ∃ ball, trajectory.positionAt? step = some ball ∧ reach.IsFeasible ball step}

section Feasible

variable (reach : Reach ℝ) (ball : Vec2 ℝ)

theorem isAllowedAt_eq_true_iff :
    reach.isAllowedAt ball = true ↔
      (reach.isGoalie = true → reach.penaltyArea.contains ball = true) := by
  unfold isAllowedAt
  cases reach.isGoalie <;> simp

theorem controlsNow_eq_true_iff :
    reach.controlsNow ball = true ↔ reach.IsInControl ball := by
  unfold controlsNow rawControl
  rw [Bool.and_eq_true, Bool.and_eq_true, decide_eq_true_eq, isAllowedAt_eq_true_iff,
    ExactReal.le_eq_true_iff]
  constructor
  · rintro ⟨hPenalty, hAllowed, hNorm⟩
    exact ⟨hPenalty, hAllowed, hNorm⟩
  · rintro ⟨hPenalty, hAllowed, hNorm⟩
    exact ⟨hPenalty, hAllowed, hNorm⟩

theorem isOutOfReach_eq_false_iff (step : Nat) :
    reach.isOutOfReach ball step = false ↔
      (ball - reach.player.position).normSquared ≤
        (max 0 (reach.control +
          reach.motion.type.speedMax * ((step + reach.bonus - reach.penalty : ℤ) : ℝ) +
            reach.search.reachMargin)) ^ 2 := by
  have hRadius : reach.fullSpeedReach step = max 0 (reach.control +
      reach.motion.type.speedMax * ((step + reach.bonus - reach.penalty : ℤ) : ℝ) +
        reach.search.reachMargin) := by
    unfold fullSpeedReach
    dsimp only
    rw [ExactReal.positivePart_eq, max_comm]
    rfl
  unfold isOutOfReach
  dsimp only
  rw [Bool.eq_false_iff, ne_eq, ExactReal.lt_eq_true_iff, not_lt, hRadius, sq]

theorem isAchievable_eq_true_iff (step : Nat) :
    reach.isAchievable ball step = true ↔
      (reach.turns reach.control (reach.wayToBall ball step) : ℤ) + reach.penalty ≤ step ∧
        ((reach.wayToBall ball step).norm ≤ reach.control ∨
          ((reach.motion.cyclesToReach
                ((reach.wayToBall ball step).norm - reach.control)).toNat : ℤ) -
              max 0 (reach.bonus - reach.turns reach.control (reach.wayToBall ball step)) ≤
            step - reach.turns reach.control (reach.wayToBall ball step) - reach.penalty) := by
  have hZero : (0.0 : ℝ) = 0 := by norm_num
  unfold isAchievable
  dsimp only
  generalize reach.wayToBall ball step = way
  by_cases hLate : (step : ℤ) - reach.turns reach.control way - reach.penalty < 0
  · rw [if_pos hLate]
    constructor
    · intro hFalse
      contradiction
    · rintro ⟨hTime, -⟩
      omega
  · rw [if_neg hLate]
    have hTime : (reach.turns reach.control way : ℤ) + reach.penalty ≤ step := by omega
    by_cases hNear : way.norm - reach.control ≤ 0
    · rw [if_pos ((ExactReal.le_eq_true_iff _ _).mpr (hZero ▸ hNear))]
      exact ⟨fun _ => ⟨hTime, Or.inl (by linarith)⟩, fun _ => rfl⟩
    · rw [if_neg (fun hLe => hNear (hZero ▸ (ExactReal.le_eq_true_iff _ _).mp hLe)),
        decide_eq_true_eq, max_comm]
      constructor
      · intro hDashes
        exact ⟨hTime, Or.inr hDashes⟩
      · rintro ⟨-, hInside | hDashes⟩
        · exact absurd (by linarith) hNear
        · exact hDashes

/-- The search succeeds exactly at feasible steps. -/
theorem succeedsAt_eq_true_iff (step : Nat) :
    reach.succeedsAt ball step = true ↔ reach.IsFeasible ball step := by
  unfold succeedsAt
  rw [Bool.and_eq_true, Bool.and_eq_true, Bool.not_eq_true', isAllowedAt_eq_true_iff,
    isOutOfReach_eq_false_iff, isAchievable_eq_true_iff]
  constructor
  · rintro ⟨hAllowed, hSpeed, hTurns, hArrives⟩
    exact ⟨by omega, hAllowed, hSpeed, hTurns, hArrives⟩
  · rintro ⟨-, hAllowed, hSpeed, hTurns, hArrives⟩
    exact ⟨hAllowed, hSpeed, hTurns, hArrives⟩

theorem successes_eq_feasibleSteps (trajectory : Trajectory ℝ) :
    reach.successes trajectory = reach.feasibleSteps trajectory := by
  unfold successes feasibleSteps
  simp only [succeedsAt_eq_true_iff]

end Feasible

/-- A predicted step is what it says.  Zero may mean that the ball is under control.  A step inside
the window is otherwise the least feasible one, and a prediction without a feasible step does not
lie inside the window.  Steps are cut off at the largest word, which makes a difference in windows
of more than 2 ^ 32 samples only (`wrappingStep_eq_step`). -/
structure IsSound (reach : Reach ℝ) (trajectory : Trajectory ℝ) (result : UInt32) : Prop where
  control : reach.IsInControl trajectory.origin → result = 0
  least : ¬ reach.IsInControl trajectory.origin → ∀ step,
    IsLeast (reach.feasibleSteps trajectory) step → result = Word.ofInt step
  inside : result.toNat < trajectory.lastStep →
    reach.IsInControl trajectory.origin ∧ result = 0 ∨
      IsLeast (reach.feasibleSteps trajectory) result.toNat
  outside : ¬ reach.IsInControl trajectory.origin → reach.feasibleSteps trajectory = ∅ →
    trajectory.lastStep ≤ result.toNat

end Reach

namespace Predictor

/-- Every prediction is sound, whatever is known of the player and of the ball, and in both
roles. -/
theorem isSound_predict (predictor : Predictor ℝ) (player : Kinematics ℝ)
    (trajectory : Trajectory ℝ) (isGoalie : Bool) :
    (predictor.reach player isGoalie).IsSound trajectory
      (predictor.predict player trajectory isGoalie) := by
  unfold predict
  generalize predictor.reach player isGoalie = reach
  have hControl := reach.controlsNow_eq_true_iff trajectory.origin
  have hCases := reach.step_cases trajectory
  rw [← Bool.not_eq_true, hControl, reach.successes_eq_feasibleSteps] at hCases
  have hOutside := reach.lastStep_le_restingStep trajectory
  rcases hCases with ⟨hIn, hStep⟩ | ⟨hOut, found, hLeast, hStep⟩ | ⟨hOut, hNone, hStep⟩
  · exact ⟨fun _ => hStep, fun hOut => absurd hIn hOut, fun _ => Or.inl ⟨hIn, hStep⟩,
      fun hOut => absurd hIn hOut⟩
  · refine ⟨fun hIn => absurd hIn hOut, ?_, ?_, ?_⟩
    · intro _ step hStepLeast
      rw [hStep, hLeast.unique hStepLeast]
    · intro hInside
      -- A word below the last step has not been cut off.
      have hWord := Word.toNat_ofInt found
      unfold Trajectory.lastStep at hInside
      rw [hStep] at hInside ⊢
      obtain hSame : (Word.ofInt found).toNat = found := by omega
      rw [hSame]
      exact Or.inr hLeast
    · intro _ hNone
      rw [hNone] at hLeast
      exact absurd hLeast.1 (Set.notMem_empty found)
  · refine ⟨fun hIn => absurd hIn hOut, ?_, ?_, ?_⟩
    · intro _ step hLeast
      rw [hNone] at hLeast
      exact absurd hLeast.1 (Set.notMem_empty step)
    · intro hInside
      rw [hStep] at hInside
      omega
    · intro _ _
      rw [hStep]
      exact hOutside

end Predictor

end SoccerWorld
