import SoccerWorld.World.Model

/-!
# Runs of a world model

Facts about the event loop that do not depend on what a snapshot holds: a run never changes the
observer, a run over a concatenation is one run after the other, and a trace lists the ends of the
initial stretches of its run.

`Snapshot.IsReachable` is the least set of snapshots that is closed under building by observers on
an assigned side.  It is larger than the set of snapshots of single runs, because a snapshot may be
built against one that another observer published.  `isReachable_of_current_run` puts the snapshots
of runs into it, so that an invariant is proved once, by induction on reachability.
-/

namespace SoccerWorld

variable {R : Type} [Scalar R]

/-- Snapshots that observers on assigned sides can publish, first cycles and later ones. -/
inductive Snapshot.IsReachable : Snapshot R → Prop
  | build (observer : Observer R) (hSide : observer.perspective.ourSide.isAssigned = true)
      (observation : CycleObservation R) (previous : Option (Snapshot R))
      (hPrevious : ∀ snapshot, previous = some snapshot → IsReachable snapshot)
      (deadline : Deadline) : IsReachable (observer.build observation previous deadline)

namespace WorldModel

@[simp]
theorem run_cons (model : WorldModel R) (event : WorldEvent R) (events : List (WorldEvent R)) :
    model.run (event :: events) = (model.step event).run events := rfl

theorem run_append (model : WorldModel R) (first second : List (WorldEvent R)) :
    model.run (first ++ second) = (model.run first).run second := by
  unfold run
  rw [List.foldl_append]

@[simp]
theorem observer_step (model : WorldModel R) (event : WorldEvent R) :
    (model.step event).observer = model.observer := by
  cases event <;> rfl

/-- Events never change who observes. -/
@[simp]
theorem observer_run (model : WorldModel R) (events : List (WorldEvent R)) :
    (model.run events).observer = model.observer := by
  induction events generalizing model with
  | nil => rfl
  | cons event events ih => rw [run_cons, ih, observer_step]

/-- The entries of a trace are the ends of the runs over the nonempty initial stretches. -/
theorem trace_eq_map_run (model : WorldModel R) (events : List (WorldEvent R)) :
    model.trace events =
      (List.range events.length).map fun n => model.run (events.take (n + 1)) := by
  induction events generalizing model with
  | nil => rfl
  | cons event events ih =>
      rw [trace, ih, List.length_cons, List.range_succ_eq_map, List.map_cons, List.map_map]
      rfl

/-- What a world model shows after every run, if it depends on a view of the events only, depends on
that view only along every trace. -/
theorem map_trace_of_run {α β : Type} (model : WorldModel R) (shown : WorldModel R → β)
    (view : WorldEvent R → α) (determined : List α → β)
    (hRun : ∀ events, shown (model.run events) = determined (events.map view))
    (events : List (WorldEvent R)) :
    (model.trace events).map shown =
      (List.range (events.map view).length).map fun n =>
        determined ((events.map view).take (n + 1)) := by
  rw [trace_eq_map_run, List.map_map, List.length_map]
  refine List.map_congr_left fun n _ => ?_
  rw [Function.comp_apply, hRun, List.map_take]

/-- What every build preserves holds of the snapshot that a run ends with. -/
theorem current_run_induction {P : Snapshot R → Prop} (model : WorldModel R)
    (hBuild : ∀ observation previous deadline,
      (∀ snapshot, previous = some snapshot → P snapshot) →
        P (model.observer.build observation previous deadline))
    (hStart : ∀ snapshot, model.current = some snapshot → P snapshot)
    (events : List (WorldEvent R)) :
    ∀ snapshot, (model.run events).current = some snapshot → P snapshot := by
  induction events generalizing model with
  | nil => exact hStart
  | cons event events ih =>
      rw [run_cons]
      apply ih
      · rw [observer_step]
        exact hBuild
      · intro snapshot hCurrent
        cases event with
        | update observation deadline =>
            obtain rfl : model.next observation deadline = snapshot := Option.some.inj hCurrent
            exact hBuild observation model.current deadline hStart
        | reset => contradiction

/-- Every snapshot of a run that began with nothing seen is reachable. -/
theorem isReachable_of_current_run (observer : Observer R)
    (hSide : observer.perspective.ourSide.isAssigned = true) (events : List (WorldEvent R))
    (snapshot : Snapshot R) (hCurrent : ((start observer).run events).current = some snapshot) :
    snapshot.IsReachable := by
  refine current_run_induction (start observer) ?_ ?_ events snapshot hCurrent
  · intro observation previous deadline hPrevious
    exact Snapshot.IsReachable.build observer hSide observation previous hPrevious deadline
  · intro snapshot hNone
    contradiction

end WorldModel

end SoccerWorld
