import SoccerWorld.Proofs.Snapshot.Acceptance
import SoccerWorld.Proofs.Snapshot.Coherence

/-!
# Tracked players

What one cycle of tracking makes of the accepted records and of the players of the snapshot before,
when no player is in that snapshot twice (`Snapshot.HoldsRoster`).  A record leads to a player of
its own side and number, whether it continues a player or begins one (`enlist_side_unum`).  The
players that roll on are those for which `Tracking.rollsOn` says so (`carryUnseen_eq_map`).  The two
groups share no identity (`haveDistinctIdentities_players`).
-/

namespace SoccerWorld

variable {R : Type} [Scalar R]

/-! ## One record, one player -/

namespace PlayerObservation

@[simp]
theorem turn_side (record : PlayerObservation R) (view : Perspective) :
    (record.turn view).side = record.side := rfl

@[simp]
theorem turn_position (record : PlayerObservation R) (view : Perspective) :
    (record.turn view).position = view.turnVector record.position := rfl

end PlayerObservation

namespace Player

@[simp]
theorem identity?_carry (player : Player R) (motion : Locomotion R) :
    (player.carry motion).identity? = player.identity? := rfl

end Player

namespace Tracking

/-- A record leads to a player on its side with its number. -/
theorem enlist_side_unum {previous : Option (Snapshot R)}
    (hPrevious : ∀ snapshot, previous = some snapshot → snapshot.HoldsRoster)
    (entry : AcceptedRecord R) :
    (enlist previous entry).side = entry.record.side ∧
      (enlist previous entry).unum = entry.unum := by
  unfold enlist
  cases hUnum : entry.unum with
  | none => exact ⟨rfl, rfl⟩
  | some unum =>
      cases hKnown : previous.bind fun snapshot => snapshot.find? ⟨entry.record.side, unum⟩ with
      | none =>
          simp only [hKnown, observeIdentity]
          exact ⟨rfl, rfl⟩
      | some player =>
          -- The look-up leads to a player of the identity asked for, or to none.
          obtain ⟨snapshot, hSnapshot, hFind⟩ := Option.bind_eq_some_iff.mp hKnown
          have hIdentity := (hPrevious snapshot hSnapshot).identity_of_find? _ _ hFind
          simp only [hKnown, observeIdentity]
          exact Player.identity?_eq_some_iff.mp hIdentity

/-- An accepted record is observed of some player: of the known one, or of a blank one. -/
theorem exists_enlist_eq (previous : Option (Snapshot R)) (entry : AcceptedRecord R) :
    ∃ player : Player R, enlist previous entry = player.observe entry.record := by
  unfold enlist
  cases entry.unum with
  | none => exact ⟨_, rfl⟩
  | some unum =>
      simp only [observeIdentity]
      cases previous.bind fun snapshot => snapshot.find? ⟨entry.record.side, unum⟩ with
      | none => exact ⟨_, rfl⟩
      | some player => exact ⟨player, rfl⟩

/-- Whatever was known of a player before, after a record it is as the record has it. -/
theorem enlist_position_seen (previous : Option (Snapshot R)) (entry : AcceptedRecord R) :
    (enlist previous entry).position = entry.record.position ∧
      (enlist previous entry).ages.seen = 0 := by
  obtain ⟨player, hPlayer⟩ := exists_enlist_eq previous entry
  rw [hPlayer]
  exact ⟨rfl, rfl⟩

/-- No step is predicted for a player before the ball's trajectory is known. -/
theorem reachStep_enlist (previous : Option (Snapshot R)) (entry : AcceptedRecord R) :
    (enlist previous entry).reachStep = none := by
  obtain ⟨player, hPlayer⟩ := exists_enlist_eq previous entry
  rw [hPlayer]
  rfl

theorem identity?_enlist {previous : Option (Snapshot R)}
    (hPrevious : ∀ snapshot, previous = some snapshot → snapshot.HoldsRoster)
    (entry : AcceptedRecord R) : (enlist previous entry).identity? = entry.identity? := by
  obtain ⟨hSide, hUnum⟩ := enlist_side_unum hPrevious entry
  rw [Player.identity?, AcceptedRecord.identity?, hSide, hUnum]

/-! ## Players that roll on -/

/-- The player has a known number, was not seen this cycle, and has not been unseen for too long.
The count of cycles unseen stays at the largest word once it gets there. -/
def rollsOn (maxUnseen : UInt32) (seen : List Identity) (player : Player R) : Bool :=
  player.identity?.any (fun identity => identity ∉ seen) && Word.succ player.ages.seen ≤ maxUnseen

theorem rollsOn_eq_true_iff {maxUnseen : UInt32} {seen : List Identity} {player : Player R} :
    rollsOn maxUnseen seen player = true ↔
      (∃ identity, player.identity? = some identity ∧ identity ∉ seen) ∧
        Word.succ player.ages.seen ≤ maxUnseen := by
  simp only [rollsOn, Bool.and_eq_true, Option.any_eq_true, decide_eq_true_eq]

/-- The players that are carried over are those that roll on, each after one cycle unseen. -/
theorem carryUnseen_eq_map (types : TypeRegistry R) (maxUnseen : UInt32) (seen : List Identity)
    (players : List (Player R)) :
    carryUnseen types maxUnseen seen players =
      (players.filter (rollsOn maxUnseen seen)).map
        fun player => player.carry (types.get player.typeId) := by
  induction players with
  | nil => rfl
  | cons player rest ih =>
      have hStep : carryUnseen types maxUnseen seen (player :: rest) =
          ((if rollsOn maxUnseen seen player = true then
            some (player.carry (types.get player.typeId)) else none).toList ++
              carryUnseen types maxUnseen seen rest) := by
        unfold carryUnseen
        rw [List.filterMap_cons]
        cases hIdentity : player.identity? with
        | none => simp [rollsOn, hIdentity]
        | some identity =>
            by_cases hSeen : identity ∈ seen
            · simp [rollsOn, hIdentity, hSeen]
            · by_cases hOld : maxUnseen < Word.succ player.ages.seen
              · simp [rollsOn, missIdentity, hIdentity, hSeen, hOld]
              · simp [rollsOn, missIdentity, hIdentity, hSeen, hOld, UInt32.not_lt.mp hOld]
      rw [hStep, ih]
      by_cases hRolls : rollsOn maxUnseen seen player = true
      · rw [if_pos hRolls, List.filter_cons_of_pos hRolls]
        rfl
      · rw [if_neg hRolls, List.filter_cons_of_neg hRolls]
        rfl

/-- The players of the snapshot before that roll on; there are none in the first cycle. -/
def rolling (maxUnseen : UInt32) (seen : List Identity) (previous : Option (Snapshot R)) :
    List (Player R) :=
  match previous with
  | none => []
  | some snapshot => snapshot.players.filter (rollsOn maxUnseen seen)

/-- Tracked players: one for each accepted record, then those that roll on. -/
theorem players_eq (types : TypeRegistry R) (maxUnseen : UInt32) (view : Perspective)
    (previous : Option (Snapshot R)) (accepted : List (AcceptedRecord R)) :
    players types maxUnseen view previous accepted =
      (accepted.map fun entry => enlist previous { entry with record := entry.record.turn view }) ++
        (rolling maxUnseen (accepted.filterMap AcceptedRecord.identity?) previous).map
          fun player => player.carry (types.get player.typeId) := by
  unfold players rolling
  cases previous with
  | none => rfl
  | some snapshot => rw [← carryUnseen_eq_map]

theorem rollsOn_of_mem_rolling {maxUnseen : UInt32} {seen : List Identity}
    {previous : Option (Snapshot R)} {player : Player R}
    (hPlayer : player ∈ rolling maxUnseen seen previous) :
    ∃ snapshot, previous = some snapshot ∧ player ∈ snapshot.players ∧
      rollsOn maxUnseen seen player = true := by
  cases previous with
  | none => contradiction
  | some snapshot =>
      obtain ⟨hMem, hRolls⟩ := List.mem_filter.mp hPlayer
      exact ⟨snapshot, rfl, hMem, hRolls⟩

/-! ## All players -/

variable {previous : Option (Snapshot R)}

/-- Tracked players are on assigned sides. -/
theorem isAssigned_of_mem_players (types : TypeRegistry R) (maxUnseen : UInt32)
    (view : Perspective)
    (hPrevious : ∀ snapshot, previous = some snapshot → snapshot.HoldsRoster)
    {accepted : List (AcceptedRecord R)}
    (hAccepted : ∀ entry ∈ accepted, entry.record.side.isAssigned = true) :
    ∀ player ∈ players types maxUnseen view previous accepted,
      player.side.isAssigned = true := by
  intro player hPlayer
  rw [players_eq, List.mem_append, List.mem_map, List.mem_map] at hPlayer
  rcases hPlayer with ⟨entry, hEntry, rfl⟩ | ⟨old, hOld, rfl⟩
  · rw [(enlist_side_unum hPrevious _).1, PlayerObservation.turn_side]
    exact hAccepted entry hEntry
  · obtain ⟨snapshot, hSnapshot, hMem, -⟩ := rollsOn_of_mem_rolling hOld
    rw [Player.carry_side]
    exact (hPrevious snapshot hSnapshot).isAssigned old hMem

/-- Tracked players are all different, when the accepted records name different players. -/
theorem haveDistinctIdentities_players (types : TypeRegistry R) (maxUnseen : UInt32)
    (view : Perspective)
    (hPrevious : ∀ snapshot, previous = some snapshot → snapshot.HoldsRoster)
    {accepted : List (AcceptedRecord R)}
    (hAccepted : (accepted.filterMap AcceptedRecord.identity?).Nodup) :
    Player.HaveDistinctIdentities (players types maxUnseen view previous accepted) := by
  have hObserved : (accepted.map fun entry =>
      enlist previous { entry with record := entry.record.turn view }).filterMap
        Player.identity? = accepted.filterMap AcceptedRecord.identity? := by
    rw [List.filterMap_map]
    refine List.filterMap_congr fun entry _ => ?_
    exact identity?_enlist hPrevious _
  unfold Player.HaveDistinctIdentities
  rw [players_eq, List.filterMap_append, hObserved,
    Player.filterMap_identity?_map fun player => Player.identity?_carry player _,
    List.nodup_append]
  refine ⟨hAccepted, ?_, ?_⟩
  · cases previous with
    | none => exact List.nodup_nil
    | some snapshot =>
        have hKept := List.filter_sublist
          (p := rollsOn maxUnseen (accepted.filterMap AcceptedRecord.identity?))
          (l := snapshot.players)
        exact (hPrevious snapshot rfl).distinct.sublist (hKept.filterMap Player.identity?)
  · rintro identity hSeen other hOther rfl
    obtain ⟨old, hOld, hIdentity⟩ := List.mem_filterMap.mp hOther
    obtain ⟨-, -, -, hRolls⟩ := rollsOn_of_mem_rolling hOld
    obtain ⟨⟨own, hOwn, hUnseen⟩, -⟩ := rollsOn_eq_true_iff.mp hRolls
    rw [hIdentity] at hOwn
    obtain rfl := Option.some.inj hOwn
    exact hUnseen hSeen

end Tracking

end SoccerWorld
