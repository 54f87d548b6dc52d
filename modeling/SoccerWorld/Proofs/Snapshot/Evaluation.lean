import Mathlib.Data.List.Forall2
import SoccerWorld.Snapshot.Build

/-!
# Which players are evaluated

A deadline may pass in the middle of a list.  Evaluated in turn, the players behind the first one
for whom there is no time are left as they are; evaluated each for itself, any of them may be left.
`Deadline.reaches` says at which places there is time, and in either manner of evaluation the list
is gone through place by place (`Observer.evaluateAll_eq_mapIdx`).

An evaluated player differs from the player in its reach step at most, so whatever does not look at
reach steps is the same of the list and of the evaluated list (`Observer.map_evaluateAll`).
-/

namespace SoccerWorld

/-- The evaluation comes to the player at a place.  In turn, there must be time at all places up to
it. -/
def Deadline.reaches (deadline : Deadline) : Evaluation → Nat → Bool
  | .sequential, place => (List.range (place + 1)).all deadline.hasTime
  | .parallel, place => deadline.hasTime place

/-- The clock says the same for all players. -/
def Deadline.IsSteady (deadline : Deadline) : Prop :=
  ∀ place, deadline.hasTime place = deadline.hasTime 0

namespace Deadline

theorem isSteady_ahead : ahead.IsSteady := fun _ => rfl

theorem isSteady_passed : passed.IsSteady := fun _ => rfl

theorem IsSteady.eq_ahead_or_eq_passed {deadline : Deadline} (hSteady : deadline.IsSteady) :
    deadline = ahead ∨ deadline = passed := by
  obtain ⟨hasTime⟩ := deadline
  cases hFirst : hasTime 0 with
  | true => exact Or.inl (congrArg mk (funext fun place => (hSteady place).trans hFirst))
  | false => exact Or.inr (congrArg mk (funext fun place => (hSteady place).trans hFirst))

theorem IsSteady.reaches_eq {deadline : Deadline} (hSteady : deadline.IsSteady)
    (evaluation : Evaluation) (place : Nat) :
    deadline.reaches evaluation place = deadline.hasTime 0 := by
  cases evaluation with
  | parallel => exact hSteady place
  | sequential =>
      rw [reaches, Bool.eq_iff_iff, List.all_eq_true]
      constructor
      · intro hAll
        exact hAll 0 (List.mem_range.mpr (Nat.succ_pos place))
      · intro hFirst earlier _
        rw [hSteady earlier, hFirst]

end Deadline

/-- Where the place makes no difference, a list is mapped. -/
theorem mapIdx_eq_map {α β : Type} (f : α → β) (xs : List α) :
    xs.mapIdx (fun _ x => f x) = xs.map f := by
  refine List.ext_getElem? fun place => ?_
  rw [List.getElem?_mapIdx, List.getElem?_map]

/-- What holds at all of the first places holds at the first and, one place on, at the others. -/
theorem all_range_succ (p : Nat → Bool) (n : Nat) :
    (List.range (n + 1)).all p = (p 0 && (List.range n).all fun place => p (place + 1)) := by
  rw [List.range_succ_eq_map, List.all_cons, List.all_map]
  rfl

theorem forall₂_mapIdx_right {α β γ : Type} {P : α → β → Prop} {Q : α → γ → Prop}
    {f : Nat → β → γ} (hf : ∀ place a b, P a b → Q a (f place b)) {xs : List α} {ys : List β}
    (hAll : List.Forall₂ P xs ys) : List.Forall₂ Q xs (ys.mapIdx f) := by
  induction hAll generalizing f with
  | nil => exact List.Forall₂.nil
  | cons hHead _ ih =>
      rw [List.mapIdx_cons]
      exact List.Forall₂.cons (hf 0 _ _ hHead) (ih fun place => hf (place + 1))

namespace Observer

variable {R : Type} [Scalar R] (observer : Observer R)

/-! ## One player -/

section Evaluate

variable (inTime : Bool) (trajectory : Trajectory R) (player : Player R)

@[simp]
theorem evaluate_true : observer.evaluate true trajectory player =
    { player with reachStep := some (observer.reachStep trajectory player) } := rfl

@[simp]
theorem evaluate_false : observer.evaluate false trajectory player = player := rfl

/-- What does not look at reach steps is the same of an evaluated player. -/
theorem apply_evaluate {β : Type} {f : Player R → β}
    (hf : ∀ (player : Player R) step, f { player with reachStep := step } = f player) :
    f (observer.evaluate inTime trajectory player) = f player := by
  cases inTime with
  | true => exact hf player _
  | false => rfl

@[simp]
theorem evaluate_side : (observer.evaluate inTime trajectory player).side = player.side :=
  observer.apply_evaluate inTime trajectory player fun _ _ => rfl

@[simp]
theorem evaluate_unum : (observer.evaluate inTime trajectory player).unum = player.unum :=
  observer.apply_evaluate inTime trajectory player fun _ _ => rfl

@[simp]
theorem evaluate_position :
    (observer.evaluate inTime trajectory player).position = player.position :=
  observer.apply_evaluate inTime trajectory player fun _ _ => rfl

@[simp]
theorem evaluate_ages : (observer.evaluate inTime trajectory player).ages = player.ages :=
  observer.apply_evaluate inTime trajectory player fun _ _ => rfl

@[simp]
theorem identity?_evaluate :
    (observer.evaluate inTime trajectory player).identity? = player.identity? :=
  observer.apply_evaluate inTime trajectory player fun _ _ => rfl

end Evaluate

/-! ## A list of players -/

variable (deadline : Deadline) (trajectory : Trajectory R) (players : List (Player R))

/-- The player is evaluated as the deadline has it for some place. -/
def IsEvaluation (player evaluated : Player R) : Prop :=
  ∃ place, evaluated = observer.evaluate
    (deadline.reaches observer.config.search.evaluation place) trajectory player

theorem evaluateInTurn_eq_mapIdx (place : Nat) :
    observer.evaluateInTurn deadline trajectory place players =
      players.mapIdx fun later player => observer.evaluate
        ((List.range (later + 1)).all fun step => deadline.hasTime (place + step)) trajectory
          player := by
  induction players generalizing place with
  | nil => rfl
  | cons player rest ih =>
      rw [evaluateInTurn, List.mapIdx_cons]
      cases hHere : deadline.hasTime place with
      | true =>
          have hLater : ∀ later, ((List.range (later + 1)).all fun step =>
              deadline.hasTime (place + 1 + step)) =
                (List.range (later + 1 + 1)).all fun step => deadline.hasTime (place + step) := by
            intro later
            rw [all_range_succ _ (later + 1), Nat.add_zero place, hHere, Bool.true_and]
            simp only [Nat.add_right_comm place 1, Nat.add_assoc]
          rw [if_pos rfl, ih]
          simp [hLater, hHere]
      | false =>
          have hNone : ∀ later, ((List.range (later + 1)).all fun step =>
              deadline.hasTime (place + step)) = false := by
            intro later
            rw [all_range_succ, Nat.add_zero place, hHere, Bool.false_and]
          simp only [hNone, evaluate_false, mapIdx_eq_map, List.map_id']
          rfl

/-- In either manner of evaluation the list is gone through place by place. -/
theorem evaluateAll_eq_mapIdx :
    observer.evaluateAll deadline trajectory players =
      players.mapIdx fun place player => observer.evaluate
        (deadline.reaches observer.config.search.evaluation place) trajectory player := by
  unfold evaluateAll
  cases observer.config.search.evaluation with
  | parallel => rfl
  | sequential =>
      rw [evaluateInTurn_eq_mapIdx]
      simp only [Nat.zero_add, Deadline.reaches]

theorem forall₂_evaluateAll :
    List.Forall₂ (observer.IsEvaluation deadline trajectory) players
      (observer.evaluateAll deadline trajectory players) := by
  rw [evaluateAll_eq_mapIdx]
  have hSame : List.Forall₂ Eq players players := List.forall₂_refl players
  refine forall₂_mapIdx_right ?_ hSame
  rintro place player _ rfl
  exact ⟨place, rfl⟩

variable {observer deadline trajectory players} in
theorem exists_of_mem_evaluateAll {evaluated : Player R}
    (hMem : evaluated ∈ observer.evaluateAll deadline trajectory players) :
    ∃ player ∈ players, observer.IsEvaluation deadline trajectory player evaluated := by
  rw [evaluateAll_eq_mapIdx, List.mem_mapIdx] at hMem
  obtain ⟨place, hPlace, rfl⟩ := hMem
  exact ⟨players[place], List.getElem_mem hPlace, place, rfl⟩

/-- What evaluation keeps of a player, an evaluated list has of the list. -/
theorem map_evaluateAll {β : Type} {f : Player R → β}
    (hf : ∀ inTime player, f (observer.evaluate inTime trajectory player) = f player) :
    (observer.evaluateAll deadline trajectory players).map f = players.map f := by
  rw [evaluateAll_eq_mapIdx]
  refine List.ext_getElem? fun place => ?_
  rw [List.getElem?_map, List.getElem?_mapIdx, Option.map_map, List.getElem?_map]
  exact congrArg (fun g => Option.map g players[place]?) (funext fun player => hf _ player)

theorem filterMap_evaluateAll {β : Type} {f : Player R → Option β}
    (hf : ∀ inTime player, f (observer.evaluate inTime trajectory player) = f player) :
    (observer.evaluateAll deadline trajectory players).filterMap f = players.filterMap f := by
  rw [← Function.id_comp f, ← List.filterMap_map, ← List.filterMap_map,
    observer.map_evaluateAll deadline trajectory players hf]

/-- The evaluated players of a kind are the players of that kind, each evaluated as the deadline has
it for some place. -/
theorem forall₂_filter_evaluateAll {p : Player R → Bool}
    (hp : ∀ inTime player, p (observer.evaluate inTime trajectory player) = p player) :
    List.Forall₂ (observer.IsEvaluation deadline trajectory) (players.filter p)
      ((observer.evaluateAll deadline trajectory players).filter p) := by
  refine List.rel_filter ?_ (observer.forall₂_evaluateAll deadline trajectory players)
  rintro player _ ⟨place, rfl⟩
  exact iff_of_eq (congrArg (· = true) (hp _ player).symm)

variable {deadline} in
/-- With a steady clock all players are treated alike, in either manner of evaluation. -/
theorem evaluateAll_of_isSteady (hSteady : deadline.IsSteady) :
    observer.evaluateAll deadline trajectory players =
      players.map (observer.evaluate (deadline.hasTime 0) trajectory) := by
  rw [evaluateAll_eq_mapIdx]
  simp only [hSteady.reaches_eq, mapIdx_eq_map]

theorem evaluateAll_ahead :
    observer.evaluateAll .ahead trajectory players =
      players.map (observer.evaluate true trajectory) :=
  observer.evaluateAll_of_isSteady trajectory players Deadline.isSteady_ahead

theorem evaluateAll_passed : observer.evaluateAll .passed trajectory players = players :=
  (observer.evaluateAll_of_isSteady trajectory players Deadline.isSteady_passed).trans
    (List.map_id players)

end Observer

end SoccerWorld
