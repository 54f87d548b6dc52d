import SoccerWorld.Proofs.World.Conservation

/-!
# Players are ranked by the steps that a later prediction gives

A build predicts reach steps before it sorts, and refers to players by their places after it.
`Snapshot.IsRanked` says what a snapshot must be for both to fit together: its steps are those that
a prediction gives for the players and the trajectory that it holds, its players are the tracked
players in a stable order of the steps, and the fastest of a team is first among the team's places.
Main statement: every build is ranked, in either manner of evaluation, and a build without time for
predictions leaves the tracked players as they are (`Observer.isRanked_build`).  Where the time ends
in between, some players have those steps and the others none (`Observer.reachStep_of_mem_build`).
-/

namespace SoccerWorld

variable {R : Type} [Scalar R]

/-- The fastest of a team's players with a known number is the first of the places of that team, and
no player of the team has a smaller reach step. -/
structure IsFastestOf (players : List (Player R)) (isTeam : Side → Prop) (byReach : List Nat)
    (fastest : Option Nat) : Prop where
  eq_head? : fastest = byReach.head?
  eq_none_iff : fastest = none ↔ ∀ player ∈ players, isTeam player.side → player.unum = none
  least : ∀ index, fastest = some index → ∃ player step,
    players[index]? = some player ∧ isTeam player.side ∧ player.unum.isSome = true ∧
      player.reachStep = some step ∧
      ∀ other ∈ players, isTeam other.side → other.unum.isSome = true →
        ∃ otherStep, other.reachStep = some otherStep ∧ step ≤ otherStep

/-- The state of a player, as a later question about it would read it off a snapshot. -/
def Observer.kinematics (observer : Observer R) (player : Player R) : Kinematics R :=
  Kinematics.ofPlayer player observer.perspective.ourSide observer.config.rules
    observer.config.search

/-- The players of a snapshot are the listed ones, ranked by what a prediction gives for each. -/
structure Snapshot.IsRanked (observer : Observer R) (listed : List (Player R))
    (snapshot : Snapshot R) : Prop where
  step_of_field : ∀ player ∈ snapshot.players, player.isGoalie = false →
    player.reachStep = some
      (observer.predictor.predict (observer.kinematics player) snapshot.trajectory false)
  /-- A goalie goes for the ball in the better of both roles. -/
  step_of_goalie : ∀ player ∈ snapshot.players, player.isGoalie = true →
    player.reachStep = some
      (min (observer.predictor.predict (observer.kinematics player) snapshot.trajectory false)
        (observer.predictor.predict (observer.kinematics player) snapshot.trajectory true))
  isStableSort : IsStableSort (fun player => player.reachStep.getD 0)
    (listed.map (observer.evaluate true snapshot.trajectory)) snapshot.players
  fastestPlayer_eq : snapshot.fastestPlayer = if snapshot.players.isEmpty then none else some 0
  teammates : IsFastestOf snapshot.players (fun side => side = observer.perspective.ourSide)
    snapshot.teammatesByReach snapshot.fastestTeammate
  opponents : IsFastestOf snapshot.players (fun side => side ≠ observer.perspective.ourSide)
    snapshot.opponentsByReach snapshot.fastestOpponent

/-- The players of a snapshot are the listed ones, none of them evaluated. -/
structure Snapshot.IsUnranked (listed : List (Player R)) (snapshot : Snapshot R) : Prop where
  players_eq : snapshot.players = listed
  reachStep_eq : ∀ player ∈ snapshot.players, player.reachStep = none
  fastestPlayer_eq : snapshot.fastestPlayer = none
  fastestTeammate_eq : snapshot.fastestTeammate = none
  fastestOpponent_eq : snapshot.fastestOpponent = none

namespace Observer

/-! ## The first evaluated player -/

variable {players : List (Player R)}

/-- Where all players are evaluated, the first of some places of players is that of an evaluated
one. -/
theorem firstEvaluated_eq_head? (hEvaluated : ∀ player ∈ players, player.reachStep.isSome = true)
    {indices : List Nat} (hIndices : ∀ index ∈ indices, ∃ player, players[index]? = some player) :
    firstEvaluated players indices = indices.head? := by
  cases indices with
  | nil => rfl
  | cons index rest =>
      obtain ⟨player, hPlayer⟩ := hIndices index List.mem_cons_self
      refine List.find?_cons_of_pos ?_
      rw [hPlayer]
      exact hEvaluated player (List.mem_of_getElem? hPlayer)

/-- Where no player is evaluated, none is the first. -/
theorem firstEvaluated_eq_none (hNone : ∀ player ∈ players, player.reachStep = none)
    (indices : List Nat) : firstEvaluated players indices = none := by
  refine List.find?_eq_none.mpr fun index _ => ?_
  cases hPlayer : players[index]? with
  | none => simp
  | some player =>
      rw [Option.bind_some, hNone player (List.mem_of_getElem? hPlayer)]
      simp

/-- The places of a team are those of its players with a known number. -/
theorem mem_byReach_iff (isTeam : Side → Bool) (index : Nat) :
    index ∈ (teamEntries isTeam players).map Prod.snd ↔
      ∃ player, players[index]? = some player ∧ isTeam player.side = true ∧
        player.unum.isSome = true := by
  rw [List.mem_map]
  constructor
  · rintro ⟨entry, hEntry, rfl⟩
    obtain ⟨player, hPlayer, hTeam, hUnum⟩ := mem_teamEntries_iff.mp hEntry
    exact ⟨player, hPlayer, hTeam, by rw [hUnum]; rfl⟩
  · rintro ⟨player, hPlayer, hTeam, hUnum⟩
    obtain ⟨unum, hUnum⟩ := Option.isSome_iff_exists.mp hUnum
    exact ⟨(unum, index), mem_teamEntries_iff.mpr ⟨player, hPlayer, hTeam, hUnum⟩, rfl⟩

/-- In a list by ascending steps the first of a team's places is that of its fastest player. -/
theorem isFastestOf_firstEvaluated
    (hEvaluated : ∀ player ∈ players, player.reachStep.isSome = true)
    (hAscending : players.Pairwise fun a b => a.reachStep.getD 0 ≤ b.reachStep.getD 0)
    {isTeam : Side → Bool} {team : Side → Prop} (hTeam : ∀ side, isTeam side = true ↔ team side) :
    IsFastestOf players team ((teamEntries isTeam players).map Prod.snd)
      (firstEvaluated players ((teamEntries isTeam players).map Prod.snd)) := by
  have hMem : ∀ index, index ∈ (teamEntries isTeam players).map Prod.snd ↔ _ :=
    mem_byReach_iff isTeam
  have hIncreasing := pairwise_snd_teamEntries isTeam players
  have hHead : firstEvaluated players ((teamEntries isTeam players).map Prod.snd) =
      ((teamEntries isTeam players).map Prod.snd).head? := by
    refine firstEvaluated_eq_head? hEvaluated fun index hIndex => ?_
    obtain ⟨player, hPlayer, -⟩ := (hMem index).mp hIndex
    exact ⟨player, hPlayer⟩
  rw [hHead]
  generalize (teamEntries isTeam players).map Prod.snd = byReach at hMem hIncreasing
  refine ⟨rfl, ?_, ?_⟩
  · rw [List.head?_eq_none_iff, List.eq_nil_iff_forall_not_mem]
    constructor
    · intro hNone player hPlayer hSide
      obtain ⟨index, hIndex⟩ := List.mem_iff_getElem?.mp hPlayer
      by_contra hUnum
      exact hNone index ((hMem index).mpr
        ⟨player, hIndex, (hTeam _).mpr hSide, Option.isSome_iff_ne_none.mpr hUnum⟩)
    · intro hNone index hIndex
      obtain ⟨player, hPlayer, hSide, hUnum⟩ := (hMem index).mp hIndex
      rw [hNone player (List.mem_of_getElem? hPlayer) ((hTeam _).mp hSide)] at hUnum
      contradiction
  · intro index hFirst
    obtain ⟨rest, rfl⟩ := List.head?_eq_some_iff.mp hFirst
    obtain ⟨player, hPlayer, hSide, hUnum⟩ := (hMem index).mp List.mem_cons_self
    obtain ⟨step, hStep⟩ := Option.isSome_iff_exists.mp
      (hEvaluated player (List.mem_of_getElem? hPlayer))
    refine ⟨player, step, hPlayer, (hTeam _).mp hSide, hUnum, hStep, ?_⟩
    intro other hOther hOtherSide hOtherUnum
    obtain ⟨otherStep, hOtherStep⟩ := Option.isSome_iff_exists.mp (hEvaluated other hOther)
    refine ⟨otherStep, hOtherStep, ?_⟩
    obtain ⟨place, hPlace⟩ := List.mem_iff_getElem?.mp hOther
    have hListed := (hMem place).mpr ⟨other, hPlace, (hTeam _).mpr hOtherSide, hOtherUnum⟩
    rcases List.mem_cons.mp hListed with rfl | hLater
    · obtain rfl := Option.some.inj (hPlayer.symm.trans hPlace)
      obtain rfl := Option.some.inj (hStep.symm.trans hOtherStep)
      exact UInt32.le_refl step
    · have hBefore := List.rel_of_pairwise_cons hIncreasing hLater
      obtain ⟨hIndex, rfl⟩ := List.getElem?_eq_some_iff.mp hPlayer
      obtain ⟨hPlaceLt, rfl⟩ := List.getElem?_eq_some_iff.mp hPlace
      have hLe := List.pairwise_iff_getElem.mp hAscending index place hIndex hPlaceLt hBefore
      rw [hStep, hOtherStep] at hLe
      exact hLe

/-! ## A build -/

variable (observer : Observer R) (observation : CycleObservation R)
  (previous : Option (Snapshot R))

/-- Tracked players have no reach step yet. -/
theorem reachStep_tracked :
    ∀ player ∈ observer.tracked observation previous, player.reachStep = none := by
  intro player hPlayer
  rw [tracked, Tracking.players_eq, List.mem_append, List.mem_map, List.mem_map] at hPlayer
  rcases hPlayer with ⟨entry, -, rfl⟩ | ⟨old, -, rfl⟩
  · exact Tracking.reachStep_enlist previous _
  · rfl

/-- The step that a build stores for a player, if it stores one, is the one that the stored player
gives. -/
theorem reachStep_of_mem_build (deadline : Deadline) :
    ∀ player ∈ (observer.build observation previous deadline).players,
      player.reachStep = none ∨
        player.reachStep = some (observer.reachStep
          (observer.build observation previous deadline).trajectory player) := by
  intro player hPlayer
  obtain ⟨old, hOld, place, rfl⟩ := exists_tracked_of_mem_build hPlayer
  cases deadline.reaches observer.config.search.evaluation place with
  | false => exact Or.inl (observer.reachStep_tracked observation previous old hOld)
  -- A prediction does not look at the step that is stored.
  | true => exact Or.inr rfl

/-- Without time for predictions the sort has nothing to go by, and keeps the list as it is. -/
theorem players_build_passed :
    (observer.build observation previous .passed).players =
      observer.tracked observation previous := by
  rw [build_players, evaluateAll_passed]
  refine List.mergeSort_of_pairwise (List.pairwise_of_forall_mem_list fun a ha b hb => ?_)
  rw [observer.reachStep_tracked observation previous a ha,
    observer.reachStep_tracked observation previous b hb]
  rfl

/-- With time for predictions every player is evaluated. -/
theorem reachStep_of_mem_build_ahead :
    ∀ player ∈ (observer.build observation previous .ahead).players,
      player.reachStep = some (observer.reachStep
        (observer.build observation previous .ahead).trajectory player) := by
  intro player hPlayer
  have hMem := (observer.build_players_perm observation previous .ahead).mem_iff.mp hPlayer
  rw [evaluateAll_ahead] at hMem
  obtain ⟨old, -, rfl⟩ := List.mem_map.mp hMem
  rfl

theorem isStableSort_build :
    IsStableSort (fun player => player.reachStep.getD 0)
      ((observer.tracked observation previous).map (observer.evaluate true
        (observer.build observation previous .ahead).trajectory))
      (observer.build observation previous .ahead).players := by
  rw [build_players, evaluateAll_ahead]
  refine (isStableSort_sortByReach Player.reachStep _).congr fun player hPlayer => ?_
  obtain ⟨old, -, rfl⟩ := List.mem_map.mp hPlayer
  rfl

theorem isRanked_ahead :
    (observer.build observation previous .ahead).IsRanked observer
      (observer.tracked observation previous) := by
  have hStep := observer.reachStep_of_mem_build_ahead observation previous
  have hSorted := observer.isStableSort_build observation previous
  have hEvaluated : ∀ player ∈ (observer.build observation previous .ahead).players,
      player.reachStep.isSome = true := by
    intro player hPlayer
    rw [hStep player hPlayer]
    rfl
  refine ⟨?_, ?_, hSorted, ?_, ?_, ?_⟩
  · intro player hPlayer hField
    rw [hStep player hPlayer, reachStep, Predictor.bestStep, if_neg (by rw [hField]; decide)]
    rfl
  · intro player hPlayer hGoalie
    rw [hStep player hPlayer, reachStep, Predictor.bestStep, if_pos hGoalie]
    rfl
  · show firstEvaluated (observer.build observation previous .ahead).players [0] = _
    cases hPlayers : (observer.build observation previous .ahead).players with
    | nil => rfl
    | cons player rest =>
        rw [hPlayers] at hEvaluated
        refine firstEvaluated_eq_head? hEvaluated fun index hIndex => ?_
        rw [List.mem_singleton.mp hIndex]
        exact ⟨player, rfl⟩
  · exact isFastestOf_firstEvaluated hEvaluated hSorted.ascending fun side => decide_eq_true_iff
  · refine isFastestOf_firstEvaluated hEvaluated hSorted.ascending fun side => ?_
    rw [Bool.not_eq_true', decide_eq_false_iff_not]

theorem isUnranked_passed :
    (observer.build observation previous .passed).IsUnranked
      (observer.tracked observation previous) := by
  have hPlayers := observer.players_build_passed observation previous
  have hNone : ∀ player ∈ (observer.build observation previous .passed).players,
      player.reachStep = none := by
    rw [hPlayers]
    exact observer.reachStep_tracked observation previous
  exact ⟨hPlayers, hNone, firstEvaluated_eq_none hNone _, firstEvaluated_eq_none hNone _,
    firstEvaluated_eq_none hNone _⟩

/-- A build enumerates the players of the accepted records in their order and then those that roll
on, in the order of the snapshot before.  With time for predictions it ranks them by their steps;
without, it leaves them as they are. -/
theorem isRanked_build
    (hPrevious : ∀ snapshot, previous = some snapshot → snapshot.IsReachable) :
    ∃ seen carried,
      List.Forall₂ (Player.IsSeenAs observer.perspective)
        (PlayerObservation.acceptedRecords observation.players) seen ∧
      List.Forall₂ Player.RollsOnAs (observer.carriedPlayers observation previous) carried ∧
      (observer.build observation previous .ahead).IsRanked observer (seen ++ carried) ∧
      (observer.build observation previous .passed).IsUnranked (seen ++ carried) := by
  obtain ⟨seen, carried, hTracked, hSeen, hCarried⟩ :=
    observer.exists_tracked_eq observation fun snapshot hSnapshot =>
      (hPrevious snapshot hSnapshot).isCoherent
  refine ⟨seen, carried, hSeen, hCarried, ?_, ?_⟩
  · rw [← hTracked]
    exact observer.isRanked_ahead observation previous
  · rw [← hTracked]
    exact observer.isUnranked_passed observation previous

/-- A cycle in which a goalie and a field player are seen. -/
def earlierLineup : CycleObservation Float where
  cycle := 1
  ball := some ⟨Vec2.zero, ⟨1.0, 0.0⟩⟩
  players :=
    [{ side := Side.left, unum := some 1, isGoalie := true, position := ⟨-5.0, 0.0⟩ },
      { side := Side.right, unum := some 4, position := ⟨3.0, 1.0⟩ }]

/-- A cycle in which the goalie is seen, and two players whose numbers cannot be read. -/
def partialLineup : CycleObservation Float where
  cycle := 2
  ball := some ⟨⟨1.0, 0.0⟩, ⟨1.0, 0.0⟩⟩
  players :=
    [{ side := Side.left, unum := some 1, isGoalie := true, position := ⟨-4.0, 0.0⟩ },
      { side := Side.right, unum := none, position := ⟨20.0, 0.0⟩ },
      { side := Side.left, unum := none, position := ⟨1.0, 0.0⟩ }]

theorem isRanked_build_partialLineup :
    ∃ (observer : Observer Float) (before : Snapshot Float) (seen carried : List (Player Float)),
      (∀ snapshot, some before = some snapshot → snapshot.IsReachable) ∧
        observer.config.search.evaluation = .parallel ∧
        List.Forall₂ (Player.IsSeenAs observer.perspective) partialLineup.players seen ∧
        (observer.build partialLineup (some before) .ahead).IsRanked observer (seen ++ carried) ∧
        (observer.build partialLineup (some before) .passed).IsUnranked (seen ++ carried) := by
  have hFirst : ((create Side.left (WorldConfig.parallel (R := Float)) none).build earlierLineup
      none .ahead).IsReachable := by
    refine Snapshot.IsReachable.build _ rfl _ _ ?_ _
    intro snapshot hNone
    contradiction
  have hReachable : ∀ snapshot, some ((create Side.left (WorldConfig.parallel (R := Float))
      none).build earlierLineup none .ahead) = some snapshot → snapshot.IsReachable := by
    rintro snapshot ⟨⟩
    exact hFirst
  have hAccepted : PlayerObservation.acceptedRecords partialLineup.players =
      partialLineup.players := by
    rw [← PlayerObservation.map_record_sift]
    rfl
  obtain ⟨seen, carried, hSeen, -, hRanked, hUnranked⟩ :=
    isRanked_build (create Side.left WorldConfig.parallel none) partialLineup _ hReachable
  rw [hAccepted] at hSeen
  exact ⟨_, _, seen, carried, hReachable, rfl, hSeen, hRanked, hUnranked⟩

end Observer

end SoccerWorld
