import SoccerWorld.Numeric.Binary64
import SoccerWorld.Proofs.Snapshot.Evaluation
import SoccerWorld.Proofs.Snapshot.Tracking
import SoccerWorld.Proofs.Tactics.Attribution
import SoccerWorld.Proofs.Tactics.ReachOrder
import SoccerWorld.Proofs.World.Runs

/-!
# Every published snapshot is coherent

The invariant of a run: whatever is observed, in whatever order, with or without resets and with or
without time for predictions, all positions in a published snapshot are right for its players, and
no player is in it twice.

One build keeps the invariant (`isCoherent_build`).  It needs it of the snapshot before, because a
player that is seen again is looked up there.
-/

namespace SoccerWorld

variable {R : Type} [Scalar R]

namespace Observer

/-! ## What a build does to its players -/

theorem build_players (observer : Observer R) (observation : CycleObservation R)
    (previous : Option (Snapshot R)) (deadline : Deadline) :
    (observer.build observation previous deadline).players =
      sortByReach Player.reachStep (observer.evaluateAll deadline
        (observer.trajectoryOf (observer.build observation previous deadline).ball)
        (observer.tracked observation previous)) := rfl

/-- The players of a snapshot are the evaluated tracked players, in another order. -/
theorem build_players_perm (observer : Observer R) (observation : CycleObservation R)
    (previous : Option (Snapshot R)) (deadline : Deadline) :
    (observer.build observation previous deadline).players.Perm
      (observer.evaluateAll deadline
        (observer.trajectoryOf (observer.build observation previous deadline).ball)
        (observer.tracked observation previous)) := by
  rw [build_players]
  exact sortByReach_perm Player.reachStep _

/-- What evaluation keeps of a player, a build has of the tracked players. -/
theorem map_build_players_perm {β : Type} (observer : Observer R)
    (observation : CycleObservation R) (previous : Option (Snapshot R)) (deadline : Deadline)
    {f : Player R → β}
    (hf : ∀ inTime trajectory player,
      f (observer.evaluate inTime trajectory player) = f player) :
    ((observer.build observation previous deadline).players.map f).Perm
      ((observer.tracked observation previous).map f) := by
  refine ((observer.build_players_perm observation previous deadline).map f).trans ?_
  rw [observer.map_evaluateAll deadline _ _ fun inTime => hf inTime _]

/-- Every player of a snapshot was tracked, and is evaluated as the deadline has it for some
place. -/
theorem exists_tracked_of_mem_build {observer : Observer R} {observation : CycleObservation R}
    {previous : Option (Snapshot R)} {deadline : Deadline} {player : Player R}
    (hPlayer : player ∈ (observer.build observation previous deadline).players) :
    ∃ old ∈ observer.tracked observation previous,
      observer.IsEvaluation deadline
        (observer.trajectoryOf (observer.build observation previous deadline).ball) old player :=
  exists_of_mem_evaluateAll
    ((observer.build_players_perm observation previous deadline).mem_iff.mp hPlayer)

/-- The first evaluated of some positions of players is the position of a player. -/
theorem exists_player_of_firstEvaluated {players : List (Player R)} {indices : List Nat}
    {index : Nat} (hFirst : firstEvaluated players indices = some index) :
    ∃ player, players[index]? = some player := by
  have hEvaluated := List.find?_some hFirst
  cases hPlayer : players[index]? with
  | none =>
      rw [hPlayer] at hEvaluated
      contradiction
  | some player => exact ⟨player, rfl⟩

/-! ## One build keeps the invariant -/

variable (observer : Observer R) (observation : CycleObservation R)
  {previous : Option (Snapshot R)} (deadline : Deadline)

theorem isAssigned_of_mem_build
    (hPrevious : ∀ snapshot, previous = some snapshot → snapshot.HoldsRoster) :
    ∀ player ∈ (observer.build observation previous deadline).players,
      player.side.isAssigned = true := by
  intro player hPlayer
  obtain ⟨old, hOld, place, rfl⟩ := exists_tracked_of_mem_build hPlayer
  rw [evaluate_side]
  exact Tracking.isAssigned_of_mem_players _ _ _ hPrevious
    (PlayerObservation.isAssigned_of_mem_sift [] observation.players) old hOld

theorem haveDistinctIdentities_build
    (hPrevious : ∀ snapshot, previous = some snapshot → snapshot.HoldsRoster) :
    Player.HaveDistinctIdentities (observer.build observation previous deadline).players := by
  refine Player.HaveDistinctIdentities.perm
    (observer.build_players_perm observation previous deadline) ?_
  have hTracked : Player.HaveDistinctIdentities (observer.tracked observation previous) :=
    Tracking.haveDistinctIdentities_players _ _ _ hPrevious
      (PlayerObservation.nodup_identities_sift [] observation.players)
  unfold Player.HaveDistinctIdentities at hTracked ⊢
  rw [observer.filterMap_evaluateAll deadline _ _ fun inTime =>
    observer.identity?_evaluate inTime _]
  exact hTracked

/-- The tables are made from the sorted list, which is the list that the snapshot holds. -/
theorem isTeamTable_teammates_build
    (hPrevious : ∀ snapshot, previous = some snapshot → snapshot.HoldsRoster) :
    IsTeamTable (observer.build observation previous deadline).players
      observer.perspective.ourSide (observer.build observation previous deadline).teammateSlots
      (observer.build observation previous deadline).teammatesByReach := by
  refine isTeamTable_teamEntries
    (observer.haveDistinctIdentities_build observation deadline hPrevious) ?_
  intro player _
  exact decide_eq_true_iff

theorem isTeamTable_opponents_build (hSide : observer.perspective.ourSide.isAssigned = true)
    (hPrevious : ∀ snapshot, previous = some snapshot → snapshot.HoldsRoster) :
    IsTeamTable (observer.build observation previous deadline).players
      observer.perspective.theirSide (observer.build observation previous deadline).opponentSlots
      (observer.build observation previous deadline).opponentsByReach := by
  have hAssigned := observer.isAssigned_of_mem_build observation deadline hPrevious
  refine isTeamTable_teamEntries
    (observer.haveDistinctIdentities_build observation deadline hPrevious) ?_
  intro player hPlayer
  -- Not ours means theirs only because no player is on the unassigned side.
  rw [Bool.not_eq_true', decide_eq_false_iff_not]
  exact Side.ne_iff_eq_opposite hSide (hAssigned player hPlayer)

/-- From any perspective a build holds every player once, if the snapshot before does. -/
theorem holdsRoster_build
    (hPrevious : ∀ snapshot, previous = some snapshot → snapshot.HoldsRoster) :
    (observer.build observation previous deadline).HoldsRoster := by
  have hAssigned := observer.isAssigned_of_mem_build observation deadline hPrevious
  have hDistinct := observer.haveDistinctIdentities_build observation deadline hPrevious
  have hOurs := observer.isTeamTable_teammates_build observation deadline hPrevious
  refine ⟨hAssigned, hDistinct, ?_⟩
  intro identity player hFind
  refine Snapshot.identity_of_find?_of_isTeamTable hOurs ?_ hFind
  intro hDifferent
  have hSide : observer.perspective.ourSide.isAssigned = true := by
    -- Only an unassigned side is its own opposite.
    cases hOur : observer.perspective.ourSide with
    | left => rfl
    | right => rfl
    | neutral =>
        refine absurd ?_ hDifferent
        show observer.perspective.ourSide.opposite = observer.perspective.ourSide
        rw [hOur]
        rfl
  exact observer.isTeamTable_opponents_build observation deadline hSide hPrevious

/-- A build against a coherent snapshot, or against none, is coherent. -/
theorem isCoherent_build (hSide : observer.perspective.ourSide.isAssigned = true)
    (hPrevious : ∀ snapshot, previous = some snapshot → snapshot.IsCoherent) :
    (observer.build observation previous deadline).IsCoherent := by
  have hRoster : ∀ snapshot, previous = some snapshot → snapshot.HoldsRoster :=
    fun snapshot hSnapshot => (hPrevious snapshot hSnapshot).holdsRoster
  have hAssigned := observer.isAssigned_of_mem_build observation deadline hRoster
  have hDistinct := observer.haveDistinctIdentities_build observation deadline hRoster
  have hOurs := observer.isTeamTable_teammates_build observation deadline hRoster
  have hTheirs := observer.isTeamTable_opponents_build observation deadline hSide hRoster
  have hFind : ∀ identity player,
      (observer.build observation previous deadline).find? identity = some player ↔
        ∃ index : Nat,
          (observer.build observation previous deadline).players[index]? = some player ∧
            player.identity? = some identity :=
    Snapshot.find?_eq_some_iff_of_isTeamTable hSide hAssigned hOurs hTheirs
  refine ⟨hAssigned, hDistinct, hOurs, hTheirs, ?_, ?_, ?_, ?_, ?_⟩
  · intro player hPlayer identity hIdentity
    obtain ⟨index, hIndex⟩ := List.mem_iff_getElem?.mp hPlayer
    exact (hFind identity player).mpr ⟨index, hIndex, hIdentity⟩
  · intro identity hAbsent
    cases hKnown : (observer.build observation previous deadline).find? identity with
    | none => rfl
    | some player =>
        obtain ⟨index, hIndex, hIdentity⟩ := (hFind identity player).mp hKnown
        exact absurd hIdentity (hAbsent player (List.mem_of_getElem? hIndex))
  · intro index hKicker
    exact TouchRules.exists_player_of_kicker hKicker
  · intro touch hTouch
    obtain ⟨before, -, hCandidate⟩ := TouchRules.mem_candidates_of_mem_attribution hTouch
    exact TouchRules.exists_player_of_mem_candidates hCandidate
  · intro index hFastest
    rcases hFastest with hFirst | hFirst | hFirst
    · exact exists_player_of_firstEvaluated hFirst
    · exact exists_player_of_firstEvaluated hFirst
    · exact exists_player_of_firstEvaluated hFirst

end Observer

/-! ## Every run keeps it -/

/-- Snapshots that can be published are coherent. -/
theorem Snapshot.IsReachable.isCoherent {snapshot : Snapshot R}
    (hReachable : snapshot.IsReachable) : snapshot.IsCoherent := by
  induction hReachable with
  | build observer hSide observation previous hPrevious deadline ih =>
      exact observer.isCoherent_build observation deadline hSide ih

namespace WorldModel

/-- Seen from either side, with any parameters, every snapshot that is published after any events
is coherent. -/
theorem isCoherent_of_current_run (ourSide : Side) (hSide : ourSide.isAssigned = true)
    (config : WorldConfig R) (selfUnum : Option Nat) (events : List (WorldEvent R))
    (snapshot : Snapshot R)
    (hCurrent :
      ((start (Observer.create ourSide config selfUnum)).run events).current = some snapshot) :
    snapshot.IsCoherent :=
  (isReachable_of_current_run _ hSide events snapshot hCurrent).isCoherent

/-- A cycle without players, a reset, and a cycle with two players of one number on different sides
and a third that cannot be read. -/
def eventsWithReset : List (WorldEvent Float) :=
  [.update { cycle := 1 } .ahead, .reset,
    .update
      { cycle := 2
        players :=
          [{ side := Side.left, unum := some 7, position := Vec2.zero },
            { side := Side.right, unum := some 7, position := Vec2.zero },
            { side := Side.right, position := Vec2.zero }] } .passed]

theorem isCoherent_of_current_eventsWithReset :
    Side.right.isAssigned = true ∧
      ∃ snapshot : Snapshot Float,
        ((start (Observer.create Side.right WorldConfig.standard (some 7))).run
          eventsWithReset).current = some snapshot ∧
        snapshot.IsCoherent :=
  ⟨rfl, _, rfl, isCoherent_of_current_run Side.right rfl WorldConfig.standard (some 7)
    eventsWithReset _ rfl⟩

end WorldModel

end SoccerWorld
