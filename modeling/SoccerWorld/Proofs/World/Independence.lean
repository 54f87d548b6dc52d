import SoccerWorld.Proofs.World.IdentityTrack

/-!
# Players do not interfere

A run of a world model and the track of one identity, fed with the same events, hold the same ball
and, up to the reach step, the same player at all times (`follows_run`).  The track reads nothing of
any other player, so neither does what the world model holds of this one (`recordsOf_run_eq_track`).

The reach step is the one thing that may depend on other players, by the time that they take.  While
the clock says the same for all players of a cycle, the reach step is that of the track, too.
-/

namespace SoccerWorld

variable {R : Type} [Scalar R]

/-- The track holds what a world model holds of the ball and of one player. -/
structure IdentityTrack.Follows (identity : Identity) (current : Option (Snapshot R))
    (track : IdentityTrack R) : Prop where
  /-- The same ball. -/
  ball : track.ball = current.map Snapshot.ball
  /-- The same player, evaluated or not. -/
  player : track.player.map Player.unevaluated =
    (current.bind fun snapshot => snapshot.find? identity).map Player.unevaluated

namespace WorldModel

/-- One event keeps a track and a coherent world model together. -/
theorem follows_step (model : WorldModel R) (event : WorldEvent R) (identity : Identity)
    (track : IdentityTrack R)
    (hSide : model.observer.perspective.ourSide.isAssigned = true)
    (hCoherent : ∀ snapshot, model.current = some snapshot → snapshot.IsCoherent)
    (hFollows : track.Follows identity model.current) :
    (track.step model.observer identity (event.sighting identity)).Follows identity
      (model.step event).current := by
  cases event with
  | reset => exact ⟨rfl, rfl⟩
  | update observation deadline =>
      have hBuild := model.observer.isCoherent_build observation deadline hSide hCoherent
      obtain ⟨place, hRecords⟩ := model.observer.recordsOf_build observation deadline hCoherent
        identity track hFollows.ball hFollows.player
      have hBall := model.observer.build_ball observation model.current deadline track hFollows.ball
      refine ⟨congrArg some hBall.symm, ?_⟩
      show (track.step _ _ _).player.map _ =
        ((model.observer.build observation _ deadline).find? identity).map _
      rw [hBuild.find?_eq_of_recordsOf_eq hRecords]
      unfold IdentityTrack.step WorldEvent.sighting
      dsimp only
      rw [IdentityTrack.map_unevaluated_evaluate, IdentityTrack.map_unevaluated_evaluate]

/-- Along a run, the track of every identity holds what the world model holds of it. -/
theorem follows_run (observer : Observer R)
    (hSide : observer.perspective.ourSide.isAssigned = true) (identity : Identity)
    (events : List (WorldEvent R)) :
    (IdentityTrack.run observer identity (events.map (WorldEvent.sighting identity))).Follows
      identity ((start observer).run events).current := by
  -- Both sides are folds from the first event on, so the induction is on the last one.
  induction events using List.reverseRecOn with
  | nil => exact ⟨rfl, rfl⟩
  | append_singleton events event ih =>
      -- Coherence is what makes the look-up of the previous snapshot the track's player.
      have hCoherent : ∀ snapshot, ((start observer).run events).current = some snapshot →
          snapshot.IsCoherent := fun snapshot hCurrent =>
        (isReachable_of_current_run observer hSide events snapshot hCurrent).isCoherent
      have hStep := follows_step ((start observer).run events) event identity _
        (by rw [observer_run]; exact hSide) hCoherent ih
      rw [observer_run] at hStep
      rw [run_append, List.map_append]
      unfold IdentityTrack.run
      rw [List.foldl_append]
      exact hStep

/-- While the clock is steady, the reach steps are the same, too.  The induction on the run is that
of `follows_run`; a reach step is decided in the last cycle alone. -/
theorem find?_current_run_of_isSteady (observer : Observer R)
    (hSide : observer.perspective.ourSide.isAssigned = true) (identity : Identity)
    (events : List (WorldEvent R)) (hSteady : ∀ event ∈ events, event.IsSteady) :
    (((start observer).run events).current.bind fun snapshot => snapshot.find? identity) =
      (IdentityTrack.run observer identity
        (events.map (WorldEvent.sighting identity))).player := by
  cases events using List.reverseRecOn with
  | nil => rfl
  | append_singleton events event =>
      have hFollows := follows_run observer hSide identity events
      have hCoherent : ∀ snapshot, ((start observer).run events).current = some snapshot →
          snapshot.IsCoherent := fun snapshot hCurrent =>
        (isReachable_of_current_run observer hSide events snapshot hCurrent).isCoherent
      have hLast := hSteady event (List.mem_append_right _ (List.mem_singleton_self event))
      rw [run_append, List.map_append]
      unfold IdentityTrack.run at hFollows ⊢
      rw [List.foldl_append]
      cases event with
      | reset => rfl
      | update observation deadline =>
          have hBuild := observer.isCoherent_build observation deadline hSide hCoherent
          have hRecords := observer.recordsOf_build_of_isSteady observation hLast hCoherent identity
            _ hFollows.ball hFollows.player
          show (((start observer).run events).observer.build observation _ deadline).find? _ = _
          rw [observer_run]
          exact hBuild.find?_eq_of_recordsOf_eq hRecords

/-- What a world model holds of a player after a run, whatever else was observed. -/
theorem map_recordsOf_current_run (observer : Observer R)
    (hSide : observer.perspective.ourSide.isAssigned = true) (identity : Identity)
    (events : List (WorldEvent R)) (hSteady : ∀ event ∈ events, event.IsSteady) :
    ((start observer).run events).current.map (Snapshot.recordsOf identity) =
      (IdentityTrack.run observer identity
        (events.map (WorldEvent.sighting identity))).records := by
  have hFollows := follows_run observer hSide identity events
  rw [IdentityTrack.records, hFollows.ball,
    ← find?_current_run_of_isSteady observer hSide identity events hSteady]
  cases hCurrent : ((start observer).run events).current with
  | none => rfl
  | some snapshot =>
      have hCoherent :=
        (isReachable_of_current_run observer hSide events snapshot hCurrent).isCoherent
      exact congrArg some (hCoherent.recordsOf_eq identity)

/-- The same up to the reach step, which alone depends on deadlines. -/
theorem map_unevaluated_current_run (observer : Observer R)
    (hSide : observer.perspective.ourSide.isAssigned = true) (identity : Identity)
    (events : List (WorldEvent R)) :
    (((start observer).run events).current.map fun snapshot =>
        (snapshot.recordsOf identity).map Player.unevaluated) =
      (IdentityTrack.run observer identity
        (events.map fun event => (event.sighting identity).untimed)).records.map
          (List.map Player.unevaluated) := by
  have hFollows := follows_run observer hSide identity events
  have hUntimed := IdentityTrack.records_run_untimed observer identity
    (events.map (WorldEvent.sighting identity))
  rw [List.map_map] at hUntimed
  refine Eq.trans ?_ hUntimed
  rw [IdentityTrack.records, hFollows.ball]
  cases hCurrent : ((start observer).run events).current with
  | none => rfl
  | some snapshot =>
      have hCoherent :=
        (isReachable_of_current_run observer hSide events snapshot hCurrent).isCoherent
      have hPlayer := hFollows.player
      rw [hCurrent, Option.bind_some] at hPlayer
      rw [Option.map_some, Option.map_some, Option.map_some, Option.map_some,
        hCoherent.recordsOf_eq, ← Option.toList_map, ← Option.toList_map, hPlayer]

/-- In every cycle of a run the records of an identity are those of its track so far. -/
theorem map_recordsOf_trace (observer : Observer R)
    (hSide : observer.perspective.ourSide.isAssigned = true) (identity : Identity)
    (events : List (WorldEvent R)) (hSteady : ∀ event ∈ events, event.IsSteady) :
    ((start observer).trace events).map
        (fun model => model.current.map (Snapshot.recordsOf identity)) =
      (List.range (events.map (WorldEvent.sighting identity)).length).map fun n =>
        (IdentityTrack.run observer identity
          ((events.map (WorldEvent.sighting identity)).take (n + 1))).records := by
  rw [trace_eq_map_run, List.map_map, List.length_map]
  refine List.map_congr_left fun n _ => ?_
  rw [Function.comp_apply, ← List.map_take]
  exact map_recordsOf_current_run observer hSide identity _ fun event hEvent =>
    hSteady event (List.mem_of_mem_take hEvent)

theorem map_unevaluated_trace (observer : Observer R)
    (hSide : observer.perspective.ourSide.isAssigned = true) (identity : Identity)
    (events : List (WorldEvent R)) :
    ((start observer).trace events).map (fun model => model.current.map fun snapshot =>
        (snapshot.recordsOf identity).map Player.unevaluated) =
      (List.range (events.map fun event => (event.sighting identity).untimed).length).map fun n =>
        (IdentityTrack.run observer identity
          ((events.map fun event => (event.sighting identity).untimed).take (n + 1))).records.map
            (List.map Player.unevaluated) :=
  map_trace_of_run (start observer)
    (fun model => model.current.map fun snapshot =>
      (snapshot.recordsOf identity).map Player.unevaluated)
    (fun event => (event.sighting identity).untimed)
    (fun sightings => (IdentityTrack.run observer identity sightings).records.map
      (List.map Player.unevaluated))
    (map_unevaluated_current_run observer hSide identity) events

/-- Players do not interfere.  Whatever the clock says, two runs that agree on the ball and on the
first valid records of an identity agree, in every cycle, on all of its record but the reach step,
whatever other players are observed; and after every run that much of the record is what its own
track holds.  While the clock says the same for all players of a cycle, the whole record is the
state of the track, and two runs whose clocks agree, too, agree on whole records in every cycle. -/
theorem recordsOf_run_eq_track (ourSide : Side) (hSide : ourSide.isAssigned = true)
    (config : WorldConfig R) (selfUnum : Option Nat) (identity : Identity)
    (events : List (WorldEvent R)) :
    (∀ snapshot,
      ((start (Observer.create ourSide config selfUnum)).run events).current = some snapshot →
        ((snapshot.recordsOf identity).map Player.unevaluated =
            ((IdentityTrack.run (Observer.create ourSide config selfUnum) identity
              (events.map (WorldEvent.sighting identity))).player.map Player.unevaluated).toList ∧
          (snapshot.find? identity).map Player.unevaluated =
            (IdentityTrack.run (Observer.create ourSide config selfUnum) identity
              (events.map (WorldEvent.sighting identity))).player.map Player.unevaluated) ∧
        ((∀ event ∈ events, event.IsSteady) →
          snapshot.recordsOf identity =
              (IdentityTrack.run (Observer.create ourSide config selfUnum) identity
                (events.map (WorldEvent.sighting identity))).player.toList ∧
            snapshot.find? identity =
              (IdentityTrack.run (Observer.create ourSide config selfUnum) identity
                (events.map (WorldEvent.sighting identity))).player)) ∧
      ((∀ event ∈ events, event.IsSteady) →
        ∀ (otherUnum : Option Nat) (others : List (WorldEvent R)),
          (∀ event ∈ others, event.IsSteady) →
          others.map (WorldEvent.sighting identity) = events.map (WorldEvent.sighting identity) →
            ((start (Observer.create ourSide config otherUnum)).trace others).map
                (fun model => model.current.map (Snapshot.recordsOf identity)) =
              ((start (Observer.create ourSide config selfUnum)).trace events).map
                (fun model => model.current.map (Snapshot.recordsOf identity))) ∧
      ∀ (otherUnum : Option Nat) (others : List (WorldEvent R)),
        others.map (fun event => (event.sighting identity).untimed) =
            events.map (fun event => (event.sighting identity).untimed) →
          ((start (Observer.create ourSide config otherUnum)).trace others).map
              (fun model => model.current.map fun snapshot =>
                (snapshot.recordsOf identity).map Player.unevaluated) =
            ((start (Observer.create ourSide config selfUnum)).trace events).map
              (fun model => model.current.map fun snapshot =>
                (snapshot.recordsOf identity).map Player.unevaluated) := by
  refine ⟨?_, ?_, ?_⟩
  · intro snapshot hCurrent
    have hCoherent := (isReachable_of_current_run _ hSide events snapshot hCurrent).isCoherent
    constructor
    · have hPlayer :=
        (follows_run (Observer.create ourSide config selfUnum) hSide identity events).player
      rw [hCurrent, Option.bind_some] at hPlayer
      exact ⟨by rw [hCoherent.recordsOf_eq, ← Option.toList_map, hPlayer], hPlayer.symm⟩
    · intro hSteady
      have hFind := find?_current_run_of_isSteady (Observer.create ourSide config selfUnum) hSide
        identity events hSteady
      rw [hCurrent, Option.bind_some] at hFind
      exact ⟨by rw [hCoherent.recordsOf_eq, hFind], hFind⟩
  · intro hSteady otherUnum others hOthers hAgree
    rw [map_recordsOf_trace _ hSide _ _ hOthers, map_recordsOf_trace _ hSide _ _ hSteady, hAgree,
      IdentityTrack.run_create ourSide config otherUnum selfUnum]
  · intro otherUnum others hAgree
    rw [map_unevaluated_trace _ hSide, map_unevaluated_trace _ hSide, hAgree,
      IdentityTrack.run_create ourSide config otherUnum selfUnum]

/-- A cycle with our number seven, and one in which only a player of the other side is seen. -/
def eventsWithMiss : List (WorldEvent Float) :=
  [.update
      { cycle := 1
        players := [{ side := Side.left, unum := some 7, position := Vec2.zero }] } .ahead,
    .update
      { cycle := 2
        players := [{ side := Side.right, unum := some 7, position := Vec2.zero }] } .ahead]

theorem isSteady_of_mem_eventsWithMiss : ∀ event ∈ eventsWithMiss, event.IsSteady := by
  intro event hEvent
  simp only [eventsWithMiss, List.mem_cons, List.not_mem_nil, or_false] at hEvent
  rcases hEvent with rfl | rfl
  · exact Deadline.isSteady_ahead
  · exact Deadline.isSteady_ahead

theorem recordsOf_run_eventsWithMiss :
    Side.left.isAssigned = true ∧
      ∃ snapshot : Snapshot Float,
        ((start (Observer.create Side.left WorldConfig.standard none)).run
          eventsWithMiss).current = some snapshot ∧
        snapshot.find? ⟨Side.left, 7, by decide, by decide⟩ =
          (IdentityTrack.run (Observer.create Side.left WorldConfig.standard none)
            ⟨Side.left, 7, by decide, by decide⟩ (eventsWithMiss.map (WorldEvent.sighting
              ⟨Side.left, 7, by decide, by decide⟩))).player :=
  ⟨rfl, _, rfl, (((recordsOf_run_eq_track Side.left rfl WorldConfig.standard none
    ⟨Side.left, 7, by decide, by decide⟩ eventsWithMiss).1 _ rfl).2
      isSteady_of_mem_eventsWithMiss).2⟩

end WorldModel

end SoccerWorld
