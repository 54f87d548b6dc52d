import SoccerWorld.Proofs.World.Allocation
import SoccerWorld.Proofs.World.Invariant
import SoccerWorld.Scenario.Replay

/-!
# The snapshots of a replay

A replay builds one snapshot for each observation, each against the one before.  Two forms of
reasoning about it: an invariant of builds holds of every snapshot (`forall_mem_snapshots`), and the
snapshot at a place is the build from the observation at that place (`getElem?_snapshots_zero`,
`getElem?_snapshots_succ`).

There is a report on these snapshots exactly if memory for their trajectories can be allocated, or
if there is no observation (`run_eq_ok_iff`).
-/

namespace SoccerWorld
namespace Scenario

variable {R : Type} [Scalar R]

/-- The snapshots that a list of observations leads to. -/
def snapshots (model : WorldModel R) : List (CycleObservation R) → List (Snapshot R)
  | [] => []
  | observation :: rest =>
      model.next observation .ahead :: snapshots (model.update observation .ahead) rest

/-- The snapshots that a scenario leads to under a configuration. -/
def snapshotsUnder (scenario : Scenario R) (config : WorldConfig R) : List (Snapshot R) :=
  snapshots (scenario.model config) scenario.cycles

theorem length_snapshots (model : WorldModel R) (observations : List (CycleObservation R)) :
    (snapshots model observations).length = observations.length := by
  induction observations generalizing model with
  | nil => rfl
  | cons observation rest ih =>
      rw [snapshots, List.length_cons, List.length_cons, ih]

/-- What every build of the observer preserves holds of every snapshot. -/
theorem forall_mem_snapshots {P : Snapshot R → Prop} (model : WorldModel R)
    (hBuild : ∀ observation previous, (∀ snapshot, previous = some snapshot → P snapshot) →
      P (model.observer.build observation previous .ahead))
    (hStart : ∀ snapshot, model.current = some snapshot → P snapshot)
    (observations : List (CycleObservation R)) :
    ∀ snapshot ∈ snapshots model observations, P snapshot := by
  induction observations generalizing model with
  | nil =>
      intro snapshot hSnapshot
      contradiction
  | cons observation rest ih =>
      have hNext : P (model.next observation .ahead) := hBuild observation model.current hStart
      intro snapshot hSnapshot
      rcases List.mem_cons.mp hSnapshot with rfl | hLater
      · exact hNext
      · refine ih (model.update observation .ahead) hBuild ?_ snapshot hLater
        rintro snapshot ⟨⟩
        exact hNext

/-- The first snapshot is built against what the model began with. -/
theorem getElem?_snapshots_zero (model : WorldModel R)
    (observations : List (CycleObservation R)) :
    (snapshots model observations)[0]? = observations[0]?.map fun observation =>
      model.observer.build observation model.current .ahead := by
  cases observations <;> rfl

/-- Every later snapshot is built against the one before it. -/
theorem getElem?_snapshots_succ (model : WorldModel R) (observations : List (CycleObservation R))
    (n : Nat) :
    (snapshots model observations)[n + 1]? = observations[n + 1]?.map fun observation =>
      model.observer.build observation (snapshots model observations)[n]? .ahead := by
  induction observations generalizing model n with
  | nil => rfl
  | cons observation rest ih =>
      rw [snapshots, List.getElem?_cons_succ, List.getElem?_cons_succ]
      cases n with
      | zero => exact getElem?_snapshots_zero (model.update observation .ahead) rest
      | succ n => exact ih (model.update observation .ahead) n

/-! ## Where there is a report -/

theorem snapshots?_eq_some_iff (model : WorldModel R) (observations : List (CycleObservation R))
    (listed : List (Snapshot R)) :
    snapshots? model observations = some listed ↔
      (observations = [] ∨ Trajectory.IsAllocatable model.observer.config.flight) ∧
        snapshots model observations = listed := by
  induction observations generalizing model listed with
  | nil => simp [snapshots?, snapshots]
  | cons observation rest ih =>
      show ((model.observer.build? observation model.current .ahead).bind fun snapshot =>
        (snapshots? { model with current := some snapshot } rest).bind fun later =>
          some (snapshot :: later)) = some listed ↔ _
      simp only [Option.bind_eq_some_iff, Observer.build?_eq_some_iff, ih, Option.some_inj,
        reduceCtorEq, false_or]
      constructor
      · rintro ⟨-, ⟨hMemory, rfl⟩, -, ⟨-, rfl⟩, rfl⟩
        exact ⟨hMemory, rfl⟩
      · rintro ⟨hMemory, rfl⟩
        exact ⟨_, ⟨hMemory, rfl⟩, _, ⟨Or.inr hMemory, rfl⟩, rfl⟩

variable {scenario : Scenario R} {config : WorldConfig R}

/-- A scenario with a usable configuration is reported on exactly if memory for trajectories can be
allocated or none is needed. -/
theorem run_eq_ok_iff (hConfig : scenario.resolveConfig = .ok config) (report : Report R) :
    scenario.run = .ok report ↔
      (scenario.cycles = [] ∨ Trajectory.IsAllocatable config.flight) ∧
        scenario.report (scenario.snapshotsUnder config) = report := by
  have hSnapshots := snapshots?_eq_some_iff (scenario.model config) scenario.cycles
  unfold run
  rw [hConfig]
  dsimp only
  cases hListed : snapshots? (scenario.model config) scenario.cycles with
  | none =>
      refine ⟨fun hError => by contradiction, ?_⟩
      rintro ⟨hMemory, -⟩
      rw [(hSnapshots _).mpr ⟨hMemory, rfl⟩] at hListed
      contradiction
  | some listed =>
      obtain ⟨hMemory, rfl⟩ := (hSnapshots listed).mp hListed
      dsimp only
      rw [Except.ok.injEq]
      exact ⟨fun hReport => ⟨hMemory, hReport⟩, fun hReport => hReport.2⟩

/-- Whether there is a report does not depend on what is expected. -/
theorem exists_run_eq_ok_iff (hConfig : scenario.resolveConfig = .ok config) :
    (∃ report, scenario.run = .ok report) ↔
      scenario.cycles = [] ∨ Trajectory.IsAllocatable config.flight := by
  simp only [run_eq_ok_iff hConfig]
  exact ⟨fun ⟨_, hMemory, _⟩ => hMemory, fun hMemory => ⟨_, hMemory, rfl⟩⟩

end Scenario
end SoccerWorld
