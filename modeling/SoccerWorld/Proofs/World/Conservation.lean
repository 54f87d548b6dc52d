import SoccerWorld.Proofs.World.Invariant

/-!
# No player is lost, invented or doubled

A snapshot's players are, up to order, one for every accepted record of the cycle and one for every
player of the snapshot before that rolls on; its diagnostics are one for every other record
(`build_conserves`).  Acceptance is `PlayerObservation.IsAccepted`, so the statement does not depend
on how a build keeps track of the identities that it has seen.
-/

namespace SoccerWorld

variable {R : Type} [Scalar R]

/-- The player is the one that a record of this cycle describes. -/
structure Player.IsSeenAs (view : Perspective) (record : PlayerObservation R)
    (player : Player R) : Prop where
  /-- The side of the record. -/
  side : player.side = record.side
  /-- The number of the record. -/
  unum : player.unum = record.number?
  /-- The position of the record, in the canonical frame. -/
  position : player.position = view.turnVector record.position
  /-- The player was seen in this cycle. -/
  seen : player.ages.seen = 0

/-- A player of the snapshot before is this one, after a cycle without a record of it. -/
structure Player.RollsOnAs (old player : Player R) : Prop where
  /-- The side stays. -/
  side : player.side = old.side
  /-- The number stays. -/
  unum : player.unum = old.unum
  /-- The player was unseen for one more cycle. -/
  seen : player.ages.seen = Word.succ old.ages.seen

namespace Observer

variable {previous : Option (Snapshot R)}

/-- The players of the snapshot before that no accepted record names, and whose number is known and
whose time is not over. -/
noncomputable def carriedPlayers (observer : Observer R) (observation : CycleObservation R)
    (previous : Option (Snapshot R)) : List (Player R) :=
  Tracking.rolling observer.config.maxUnseenCycles
    ((PlayerObservation.acceptedRecords observation.players).filterMap PlayerObservation.identity?)
    previous

/-- Naming the accepted records by position or by their entries makes no difference. -/
theorem filterMap_identity?_sift (records : List (PlayerObservation R)) :
    (PlayerObservation.sift [] records).1.filterMap AcceptedRecord.identity? =
      (PlayerObservation.acceptedRecords records).filterMap PlayerObservation.identity? := by
  rw [← PlayerObservation.map_record_sift, List.filterMap_map]
  exact List.filterMap_congr (PlayerObservation.identity_of_mem_sift [] records)

/-- A player of an accepted record is as the record has it. -/
theorem isSeenAs_enlist (hPrevious : ∀ snapshot, previous = some snapshot → snapshot.IsCoherent)
    (view : Perspective) {entry : AcceptedRecord R} (hUnum : entry.unum = entry.record.number?) :
    (Tracking.enlist previous { entry with record := entry.record.turn view }).IsSeenAs view
      entry.record := by
  obtain ⟨hEnlistSide, hEnlistUnum⟩ := Tracking.enlist_side_unum
    (fun snapshot hSnapshot => (hPrevious snapshot hSnapshot).holdsRoster)
    { entry with record := entry.record.turn view }
  obtain ⟨hPosition, hSeen⟩ := Tracking.enlist_position_seen previous
    { entry with record := entry.record.turn view }
  refine ⟨?_, ?_, ?_, hSeen⟩
  · rw [hEnlistSide, PlayerObservation.turn_side]
  · rw [hEnlistUnum, hUnum]
  · rw [hPosition, PlayerObservation.turn_position]

/-- The tracked players in two groups, each in its own order: those of the accepted records, and
those that roll on. -/
theorem exists_tracked_eq (observer : Observer R) (observation : CycleObservation R)
    (hPrevious : ∀ snapshot, previous = some snapshot → snapshot.IsCoherent) :
    ∃ seen carried, observer.tracked observation previous = seen ++ carried ∧
      List.Forall₂ (Player.IsSeenAs observer.perspective)
        (PlayerObservation.acceptedRecords observation.players) seen ∧
      List.Forall₂ Player.RollsOnAs (observer.carriedPlayers observation previous) carried := by
  rw [tracked, Tracking.players_eq, filterMap_identity?_sift]
  refine ⟨_, _, rfl, ?_, ?_⟩
  · rw [← PlayerObservation.map_record_sift, List.forall₂_map_left_iff, List.forall₂_map_right_iff,
      List.forall₂_same]
    intro entry hEntry
    exact isSeenAs_enlist hPrevious observer.perspective
      (PlayerObservation.unum_of_mem_sift [] observation.players entry hEntry)
  · rw [List.forall₂_map_right_iff, carriedPlayers, List.forall₂_same]
    intro old _
    exact ⟨rfl, rfl, rfl⟩

/-- Evaluation keeps what is said of a player here. -/
theorem isSeenAs_evaluate {observer : Observer R} {view : Perspective} {inTime : Bool}
    {trajectory : Trajectory R} {record : PlayerObservation R} {player : Player R}
    (hPlayer : player.IsSeenAs view record) :
    (observer.evaluate inTime trajectory player).IsSeenAs view record := by
  refine ⟨?_, ?_, ?_, ?_⟩
  · rw [evaluate_side, hPlayer.side]
  · rw [evaluate_unum, hPlayer.unum]
  · rw [evaluate_position, hPlayer.position]
  · rw [evaluate_ages, hPlayer.seen]

theorem rollsOnAs_evaluate {observer : Observer R} {inTime : Bool} {trajectory : Trajectory R}
    {old player : Player R} (hPlayer : old.RollsOnAs player) :
    old.RollsOnAs (observer.evaluate inTime trajectory player) := by
  refine ⟨?_, ?_, ?_⟩
  · rw [evaluate_side, hPlayer.side]
  · rw [evaluate_unum, hPlayer.unum]
  · rw [evaluate_ages, hPlayer.seen]

/-- The players of a build in two groups: those of the accepted records, and those that roll on. -/
theorem exists_perm_build_players (observer : Observer R) (observation : CycleObservation R)
    (deadline : Deadline)
    (hPrevious : ∀ snapshot, previous = some snapshot → snapshot.IsCoherent) :
    ∃ seen carried,
      (observer.build observation previous deadline).players.Perm (seen ++ carried) ∧
        List.Forall₂ (Player.IsSeenAs observer.perspective)
          (PlayerObservation.acceptedRecords observation.players) seen ∧
        List.Forall₂ Player.RollsOnAs (observer.carriedPlayers observation previous)
          carried := by
  -- The evaluated list has the tracked players at their places, and the sort is a permutation.
  have hPerm := observer.build_players_perm observation previous deadline
  obtain ⟨seen, carried, hTracked, hSeen, hCarried⟩ :=
    observer.exists_tracked_eq observation hPrevious
  rw [hTracked, evaluateAll_eq_mapIdx, List.mapIdx_append] at hPerm
  refine ⟨_, _, hPerm, ?_, ?_⟩
  · refine forall₂_mapIdx_right ?_ hSeen
    intro _ record player hPlayer
    exact isSeenAs_evaluate hPlayer
  · refine forall₂_mapIdx_right ?_ hCarried
    intro _ old player hPlayer
    exact rollsOnAs_evaluate hPlayer

/-- Players of records have numbers exactly where the records have them. -/
theorem countP_unum_of_isSeenAs {view : Perspective} {records : List (PlayerObservation R)}
    {players : List (Player R)} (hSeen : List.Forall₂ (Player.IsSeenAs view) records players) :
    players.countP (fun player => player.unum.isNone) =
      records.countP fun record => record.number?.isNone := by
  induction hSeen with
  | nil => rfl
  | cons hHead _ ih => rw [List.countP_cons, List.countP_cons, ih, hHead.unum]

/-- Only players with a number roll on. -/
theorem isSome_unum_of_mem_carriedPlayers {observer : Observer R}
    {observation : CycleObservation R} {old : Player R}
    (hOld : old ∈ observer.carriedPlayers observation previous) : old.unum.isSome = true := by
  obtain ⟨-, -, -, hRolls⟩ := Tracking.rollsOn_of_mem_rolling hOld
  obtain ⟨⟨identity, hIdentity, -⟩, -⟩ := Tracking.rollsOn_eq_true_iff.mp hRolls
  rw [(Player.identity?_eq_some_iff.mp hIdentity).2]
  rfl

theorem countP_unum_of_rollsOnAs {players : List (Player R)} {carried : List (Player R)}
    (hCarried : List.Forall₂ Player.RollsOnAs players carried)
    (hNumbers : ∀ old ∈ players, old.unum.isSome = true) :
    carried.countP (fun player => player.unum.isNone) = 0 := by
  induction hCarried with
  | nil => rfl
  | cons hHead _ ih =>
      have hSome := hNumbers _ List.mem_cons_self
      rw [List.countP_cons, ih fun old hOld => hNumbers old (List.mem_cons_of_mem _ hOld),
        hHead.unum, Option.isNone_eq_false_iff.mpr hSome]
      rfl

/-- One build conserves players.  Its players are one for each accepted record and one for each
player that rolls on; players without a number come from records of this cycle only; its
diagnostics are one for each other record, in order; and a record is a duplicate only of an earlier
accepted one. -/
theorem build_conserves (observer : Observer R) (observation : CycleObservation R)
    (previous : Option (Snapshot R))
    (hPrevious : ∀ snapshot, previous = some snapshot → snapshot.IsReachable)
    (deadline : Deadline) :
    (∃ seen carried,
      (observer.build observation previous deadline).players.Perm (seen ++ carried) ∧
        List.Forall₂ (Player.IsSeenAs observer.perspective)
          (PlayerObservation.acceptedRecords observation.players) seen ∧
        List.Forall₂ Player.RollsOnAs (observer.carriedPlayers observation previous)
          carried) ∧
      (observer.build observation previous deadline).players.countP
          (fun player => player.unum.isNone) =
        (PlayerObservation.acceptedRecords observation.players).countP
          (fun record => record.number?.isNone) ∧
      List.Forall₂ PlayerObservation.IsFaultOf
        (PlayerObservation.rejectedRecords observation.players)
        (observer.build observation previous deadline).diagnostics ∧
      (∀ i record, observation.players[i]? = some record → record.IsWellFormed →
        ¬ PlayerObservation.IsAccepted observation.players i →
          ∃ j, j < i ∧ PlayerObservation.IsAccepted observation.players j ∧
            ∃ earlier, observation.players[j]? = some earlier ∧ earlier.SameIdentity record) ∧
      (observer.build observation previous deadline).players.length +
          (observer.build observation previous deadline).diagnostics.length =
        observation.players.length + (observer.carriedPlayers observation previous).length := by
  have hCoherent : ∀ snapshot, previous = some snapshot → snapshot.IsCoherent :=
    fun snapshot hSnapshot => (hPrevious snapshot hSnapshot).isCoherent
  obtain ⟨seen, carried, hPerm, hSeen, hCarried⟩ :=
    observer.exists_perm_build_players observation deadline hCoherent
  have hFaults : List.Forall₂ PlayerObservation.IsFaultOf
      (PlayerObservation.rejectedRecords observation.players)
      (observer.build observation previous deadline).diagnostics :=
    PlayerObservation.isFaultOf_sift observation.players
  refine ⟨⟨seen, carried, hPerm, hSeen, hCarried⟩, ?_, hFaults, ?_, ?_⟩
  · rw [hPerm.countP_eq, List.countP_append, countP_unum_of_isSeenAs hSeen,
      countP_unum_of_rollsOnAs hCarried fun old hOld => isSome_unum_of_mem_carriedPlayers hOld,
      Nat.add_zero]
  · intro i record hRecord hWellFormed hRejected
    exact PlayerObservation.exists_isAccepted_of_duplicate hRecord hWellFormed hRejected
  · have hRecords :=
      PlayerObservation.length_acceptedRecords_add_rejectedRecords observation.players
    have hSeenLength := hSeen.length_eq
    have hCarriedLength := hCarried.length_eq
    have hFaultsLength := hFaults.length_eq
    have hPlayers := hPerm.length_eq
    rw [List.length_append] at hPlayers
    omega

/-- A cycle in which one player of the other side is seen. -/
def earlierRecords : CycleObservation Float where
  cycle := 1
  players := [{ side := Side.right, unum := some 4, position := Vec2.zero }]

/-- A cycle with a good record, a copy of it, a record that is left out, a copy of that, and a
record of no side. -/
def mixedRecords : CycleObservation Float where
  cycle := 2
  players :=
    [{ side := Side.left, unum := some 7, position := Vec2.zero },
      { side := Side.left, unum := some 7, position := Vec2.zero },
      { side := Side.left, unum := some 12, position := Vec2.zero },
      { side := Side.left, unum := some 12, position := Vec2.zero },
      { side := Side.neutral, unum := some 7, position := Vec2.zero }]

theorem build_conserves_mixedRecords :
    ∃ (observer : Observer Float) (before : Snapshot Float),
      (∀ snapshot, some before = some snapshot → snapshot.IsReachable) ∧
        (observer.build mixedRecords (some before) .ahead).players.length +
            (observer.build mixedRecords (some before) .ahead).diagnostics.length =
          5 + (observer.carriedPlayers mixedRecords (some before)).length := by
  have hFirst : ((create Side.left (WorldConfig.standard (R := Float)) none).build earlierRecords
      none .ahead).IsReachable := by
    refine Snapshot.IsReachable.build _ rfl _ _ ?_ _
    intro snapshot hNone
    contradiction
  refine ⟨create Side.left WorldConfig.standard none, _, ?_,
    (build_conserves (create Side.left WorldConfig.standard none) mixedRecords
      (some ((create Side.left WorldConfig.standard none).build earlierRecords none .ahead))
      ?_ .ahead).2.2.2.2⟩
  all_goals
    intro snapshot hSnapshot
    obtain rfl := Option.some.inj hSnapshot
    exact hFirst

end Observer

end SoccerWorld
