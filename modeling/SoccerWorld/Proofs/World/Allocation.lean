import SoccerWorld.Proofs.Ball.TrajectoryShape
import SoccerWorld.Proofs.World.Runs

/-!
# Runs for which memory suffices

Memory is needed for the trajectory that belongs to a snapshot, and as much of it in every cycle.
So a run comes to its end exactly if it needs none or if one allocation can be met, and then its end
is the one that is reached where nothing fails (`WorldModel.run?_eq_some_iff`).  What is proved of
builds and of runs holds of these.
-/

namespace SoccerWorld

variable {R : Type} [Scalar R]

theorem Observer.build?_eq_some_iff (observer : Observer R) (observation : CycleObservation R)
    (previous : Option (Snapshot R)) (deadline : Deadline) (snapshot : Snapshot R) :
    observer.build? observation previous deadline = some snapshot ↔
      Trajectory.IsAllocatable observer.config.flight ∧
        observer.build observation previous deadline = snapshot := by
  unfold build?
  dsimp only
  rw [Option.map_eq_some_iff]
  simp only [Trajectory.compute?_eq_some_iff]
  constructor
  · rintro ⟨trajectory, ⟨hMemory, rfl⟩, rfl⟩
    exact ⟨hMemory, rfl⟩
  · rintro ⟨hMemory, rfl⟩
    exact ⟨_, ⟨hMemory, rfl⟩, rfl⟩

/-- The event needs memory. -/
def WorldEvent.IsUpdate : WorldEvent R → Prop
  | update _ _ => True
  | reset => False

namespace WorldModel

theorem step?_eq_some_iff (model next : WorldModel R) (event : WorldEvent R) :
    model.step? event = some next ↔
      (event.IsUpdate → Trajectory.IsAllocatable model.observer.config.flight) ∧
        model.step event = next := by
  cases event with
  | reset =>
      show some model.reset = some next ↔ (False → _) ∧ model.reset = next
      rw [Option.some_inj, false_imp_iff, true_and]
  | update observation deadline =>
      show Option.map _ (model.observer.build? observation model.current deadline) = some next ↔ _
      simp only [Option.map_eq_some_iff, Observer.build?_eq_some_iff]
      constructor
      · rintro ⟨snapshot, ⟨hMemory, rfl⟩, rfl⟩
        exact ⟨fun _ => hMemory, rfl⟩
      · rintro ⟨hMemory, rfl⟩
        exact ⟨_, ⟨hMemory trivial, rfl⟩, rfl⟩

/-- A run comes to its end exactly if memory for trajectories can be allocated or none is needed. -/
theorem run?_eq_some_iff (model last : WorldModel R) (events : List (WorldEvent R)) :
    model.run? events = some last ↔
      ((∃ event ∈ events, event.IsUpdate) →
        Trajectory.IsAllocatable model.observer.config.flight) ∧ model.run events = last := by
  induction events generalizing model with
  | nil =>
      show some model = some last ↔ _ ∧ model = last
      simp
  | cons event events ih =>
      show (model.step? event).bind (fun next => next.run? events) = some last ↔ _
      simp only [Option.bind_eq_some_iff, step?_eq_some_iff, ih, run_cons, List.mem_cons,
        exists_eq_or_imp]
      constructor
      · rintro ⟨next, ⟨hFirst, rfl⟩, hRest, rfl⟩
        rw [observer_step] at hRest
        exact ⟨fun hUpdate => hUpdate.elim hFirst hRest, rfl⟩
      · rintro ⟨hMemory, rfl⟩
        refine ⟨_, ⟨fun hUpdate => hMemory (Or.inl hUpdate), rfl⟩, ?_, rfl⟩
        rw [observer_step]
        exact fun hUpdate => hMemory (Or.inr hUpdate)

end WorldModel

end SoccerWorld
