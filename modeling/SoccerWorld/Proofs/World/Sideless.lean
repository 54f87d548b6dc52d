import SoccerWorld.Proofs.World.IdentityTrack
import SoccerWorld.Proofs.World.LastTouch
import SoccerWorld.Proofs.World.Sightings

/-!
# An agent without a side

A world model may be told no side.  It sees the pitch in the frame of the left side, and so it keeps
the same ball as an agent on the left side does, and the same players, seen as long ago, and where
they were seen (`Snapshot.HasSamePresence`).

Sides are compared with ours in the tables, at the look-up, for the offside lines and for the reach
steps.  Nobody is on an unassigned side, so all players are in their table, where one of two equal
numbers hides the other, and the look-up finds none of them.  With it what was known of a player is
lost whenever the player is seen again, and no touch is plausible (`Snapshot.IsSideless`).

`WorldModel.sideless_trace` has both for all runs.
-/

namespace SoccerWorld

variable {R : Type} [Scalar R]

/-! ## Who is present -/

/-- What is known of a player without a past: who it is, for how long it was unseen, and where it
is if it was seen in this cycle. -/
structure Presence (R : Type) where
  /-- The player's side. -/
  side : Side
  /-- The player's uniform number, if known. -/
  unum : Option Unum
  /-- Cycles since the player was in any observation. -/
  seenAge : UInt32
  /-- Where the player is, if it was seen in this cycle. -/
  position : Option (Vec2 R)

namespace Presence

/-- The presence one cycle later, for a player that was not seen. -/
def later (presence : Presence R) : Presence R :=
  { presence with seenAge := Word.succ presence.seenAge, position := none }

/-- Players of this presence roll on. -/
def rollsOn (maxUnseen : UInt32) (seen : List Identity) (presence : Presence R) : Bool :=
  (presence.unum.map fun unum => (⟨presence.side, unum⟩ : Identity)).any
    (fun identity => identity ∉ seen) && Word.succ presence.seenAge ≤ maxUnseen

end Presence

/-- The presence of a player. -/
def Player.presence (player : Player R) : Presence R :=
  ⟨player.side, player.unum, player.ages.seen,
    if player.ages.seen = 0 then some player.position else none⟩

/-- The presence of the player that a record describes. -/
def AcceptedRecord.presence (view : Perspective) (entry : AcceptedRecord R) : Presence R :=
  ⟨entry.record.side, entry.unum, 0, some (view.turnVector entry.record.position)⟩

namespace Snapshot

/-- Two snapshots of one cycle, up to what was known of the players before, and to what depends on
which team is ours. -/
structure HasSamePresence (one other : Snapshot R) : Prop where
  cycle_eq : one.cycle = other.cycle
  selfUnum_eq : one.selfUnum = other.selfUnum
  playMode_eq : one.playMode = other.playMode
  ball_eq : one.ball = other.ball
  trajectory_eq : one.trajectory = other.trajectory
  diagnostics_eq : one.diagnostics = other.diagnostics
  presence_perm : (one.players.map Player.presence).Perm (other.players.map Player.presence)

/-- In a snapshot without a side no team is ours, and no player is known from the cycle before. -/
structure IsSideless (snapshot : Snapshot R) : Prop where
  ourSide_eq : snapshot.ourSide = Side.neutral
  teammateSlots_eq : ∀ unum, snapshot.teammateSlots unum = none
  teammatesByReach_eq : snapshot.teammatesByReach = []
  fastestTeammate_eq : snapshot.fastestTeammate = none
  ourOffsideLine_eq : snapshot.ourOffsideLine = Offside.halfway
  /-- Of all players with a number, on whatever side, the table holds the last. -/
  opponentSlots_eq_some_iff : ∀ unum index, snapshot.opponentSlots unum = some index ↔
    IsGreatest {index | ∃ player, snapshot.player? index = some player ∧
      player.unum = some unum} index
  /-- No player is found by its identity. -/
  find?_eq_none : ∀ identity : Identity, identity.side.isAssigned = true →
    snapshot.find? identity = none
  /-- A player that is seen is taken for a new one. -/
  exists_fresh : ∀ player ∈ snapshot.players, player.ages.seen = 0 →
    ∃ record, player.unevaluated = Player.fresh player.unum record
  /-- No touch is attributed but at set plays. -/
  attribution_eq : snapshot.playMode.restartSide = none → snapshot.attribution = {}

end Snapshot

/-! ## Presence in one build -/

@[simp]
theorem Player.presence_carry (player : Player R) (motion : Locomotion R) :
    (player.carry motion).presence = player.presence.later := by
  have hUnseen : (player.carry motion).ages.seen ≠ 0 := Word.succ_ne_zero player.ages.seen
  unfold presence
  rw [if_neg hUnseen]
  rfl

theorem Tracking.presence_enlist {previous : Option (Snapshot R)}
    (hPrevious : ∀ snapshot, previous = some snapshot → snapshot.HoldsRoster)
    (view : Perspective) (entry : AcceptedRecord R) :
    (enlist previous { entry with record := entry.record.turn view }).presence =
      entry.presence view := by
  obtain ⟨hSide, hUnum⟩ :=
    enlist_side_unum hPrevious { entry with record := entry.record.turn view }
  obtain ⟨hPosition, hSeen⟩ :=
    enlist_position_seen previous { entry with record := entry.record.turn view }
  unfold Player.presence AcceptedRecord.presence
  rw [hSide, hUnum, hSeen, hPosition, if_pos rfl]
  rfl

namespace Observer

variable (observer : Observer R) (observation : CycleObservation R)

@[simp]
theorem presence_evaluate (inTime : Bool) (trajectory : Trajectory R) (player : Player R) :
    (observer.evaluate inTime trajectory player).presence = player.presence :=
  observer.apply_evaluate inTime trajectory player fun _ _ => rfl

/-- Who is present in the snapshot before. -/
def presences (previous : Option (Snapshot R)) : List (Presence R) :=
  match previous with
  | none => []
  | some snapshot => snapshot.players.map Player.presence

/-- Who is present follows from the accepted records and from who was present before. -/
theorem map_presence_tracked {previous : Option (Snapshot R)}
    (hPrevious : ∀ snapshot, previous = some snapshot → snapshot.HoldsRoster) :
    (observer.tracked observation previous).map Player.presence =
      ((PlayerObservation.sift [] observation.players).1.map
          (AcceptedRecord.presence observer.perspective)) ++
        ((presences previous).filter (Presence.rollsOn observer.config.maxUnseenCycles
          ((PlayerObservation.sift [] observation.players).1.filterMap
            AcceptedRecord.identity?))).map Presence.later := by
  unfold tracked
  rw [Tracking.players_eq, List.map_append, List.map_map, List.map_map]
  congr 1
  · refine List.map_congr_left fun entry _ => ?_
    exact Tracking.presence_enlist hPrevious observer.perspective entry
  · cases previous with
    | none => rfl
    | some snapshot =>
        unfold Tracking.rolling presences
        dsimp only
        rw [List.filter_map, List.map_map]
        refine List.map_congr_left fun player _ => ?_
        exact Player.presence_carry player _

end Observer

/-! ## A snapshot without a side -/

/-- Where no side is ours, the look-up finds nobody on a side that plays. -/
theorem Snapshot.find?_eq_none_of_neutral {snapshot : Snapshot R}
    (hSide : snapshot.ourSide = Side.neutral) {identity : Identity}
    (hAssigned : identity.side.isAssigned = true) : snapshot.find? identity = none := by
  have hOther : identity.side ≠ Side.neutral := by
    intro hNeutral
    rw [hNeutral] at hAssigned
    contradiction
  have hTheirs : snapshot.perspective.theirSide = Side.neutral := by
    show snapshot.ourSide.opposite = Side.neutral
    rw [hSide]
    rfl
  unfold find?
  rw [hSide, hTheirs, if_neg hOther, if_neg hOther]

namespace Observer

variable (observer : Observer R) (observation : CycleObservation R)
  {previous : Option (Snapshot R)} (deadline : Deadline)

section Past

variable (hBefore : ∀ snapshot, previous = some snapshot → snapshot.ourSide = Side.neutral)

include hBefore

/-- After a snapshot without a side every record begins a new player. -/
theorem enlist_eq_fresh {entry : AcceptedRecord R}
    (hAssigned : entry.record.side.isAssigned = true) :
    Tracking.enlist previous entry = Player.fresh entry.unum entry.record := by
  unfold Tracking.enlist
  cases entry.unum with
  | none => rfl
  | some unum =>
      have hUnknown : (previous.bind fun snapshot =>
          snapshot.find? ⟨entry.record.side, unum⟩) = none := by
        rw [Option.bind_eq_none_iff]
        intro snapshot hSnapshot
        exact Snapshot.find?_eq_none_of_neutral (hBefore snapshot hSnapshot) hAssigned
      simp only [hUnknown, Tracking.observeIdentity]

/-- A player that is seen after a snapshot without a side is taken for a new one. -/
theorem exists_fresh_build {player : Player R}
    (hPlayer : player ∈ (observer.build observation previous deadline).players)
    (hSeen : player.ages.seen = 0) :
    ∃ record, player.unevaluated = Player.fresh player.unum record := by
  obtain ⟨old, hOld, place, rfl⟩ := exists_tracked_of_mem_build hPlayer
  rw [evaluate_ages] at hSeen
  rw [IdentityTrack.unevaluated_evaluate, evaluate_unum]
  rw [tracked, Tracking.players_eq, List.mem_append, List.mem_map, List.mem_map] at hOld
  rcases hOld with ⟨entry, hEntry, rfl⟩ | ⟨before, -, rfl⟩
  · have hAssigned := PlayerObservation.isAssigned_of_mem_sift [] observation.players entry hEntry
    have hEnlist : Tracking.enlist previous
        { entry with record := entry.record.turn observer.perspective } =
          Player.fresh entry.unum (entry.record.turn observer.perspective) :=
      enlist_eq_fresh hBefore hAssigned
    rw [hEnlist]
    exact ⟨_, rfl⟩
  · exact absurd hSeen (Word.succ_ne_zero before.ages.seen)

/-- After a snapshot without a side no touch is plausible. -/
theorem attribution_build_of_sideless
    (hPrevious : ∀ snapshot, previous = some snapshot → snapshot.HoldsRoster)
    (hMode : observation.playMode.restartSide = none) :
    (observer.build observation previous deadline).attribution = {} := by
  have hAssigned := observer.isAssigned_of_mem_build observation deadline hPrevious
  rw [attribution_build]
  cases previous with
  | none => exact TouchRules.attribution_first hMode
  | some snapshot =>
      rw [TouchRules.attribution_later snapshot hMode]
      -- A touch is recorded of a player that the look-up finds in the snapshot before.
      have hNone : observer.touchRules.candidates
          (observer.build observation (some snapshot) deadline).players
          (observer.build observation (some snapshot) deadline).ball snapshot = [] := by
        rw [List.eq_nil_iff_forall_not_mem]
        intro touch hTouch
        obtain ⟨player, hPlayer, hSome⟩ := (TouchRules.mem_candidates_iff _ _ _ _ touch).mp hTouch
        obtain ⟨-, unum, before, -, -, hFind, -⟩ :=
          (TouchRules.touch?_eq_some_iff _ _ _ _ _ touch).mp hSome
        rw [Snapshot.find?_eq_none_of_neutral (hBefore snapshot rfl)
          (hAssigned player (List.mem_of_getElem? hPlayer))] at hFind
        contradiction
      rw [hNone]
      rfl

end Past

section Build

variable (hSide : observer.perspective.ourSide = Side.neutral)
  (hPrevious : ∀ snapshot, previous = some snapshot → snapshot.HoldsRoster)

include hSide hPrevious

/-- Nobody is on an unassigned side. -/
theorem side_ne_of_mem_build :
    ∀ player ∈ (observer.build observation previous deadline).players,
      player.side ≠ observer.perspective.ourSide := by
  intro player hPlayer hOurs
  have hAssigned := observer.isAssigned_of_mem_build observation deadline hPrevious player hPlayer
  rw [hOurs, hSide] at hAssigned
  contradiction

/-- Without defenders of ours the offside line is the halfway line. -/
theorem ourOffsideLine_build_of_sideless :
    (observer.build observation previous deadline).ourOffsideLine = Offside.halfway := by
  have hLine : teamLine (fun side => decide (side = observer.perspective.ourSide))
      (observer.build observation previous deadline).players = [] := by
    unfold teamLine
    rw [List.map_eq_nil_iff, List.filter_eq_nil_iff]
    intro player hPlayer hOurs
    exact observer.side_ne_of_mem_build observation deadline hSide hPrevious player hPlayer
      (of_decide_eq_true hOurs)
  show Offside.lineTowardNegative (teamLine _
    (observer.build observation previous deadline).players) = Offside.halfway
  rw [hLine]
  simp [Offside.lineTowardNegative]

/-- Players of both sides are entered in one table, in which the last with a number counts. -/
theorem opponentSlots_build_eq_some_iff (unum : Unum) (index : Nat) :
    (observer.build observation previous deadline).opponentSlots unum = some index ↔
      IsGreatest {index | ∃ player,
        (observer.build observation previous deadline).player? index = some player ∧
          player.unum = some unum} index := by
  have hEntries : ∀ other, (unum, other) ∈
      teamEntries (fun side => !decide (side = observer.perspective.ourSide))
        (observer.build observation previous deadline).players ↔
      ∃ player, (observer.build observation previous deadline).player? other = some player ∧
        player.unum = some unum := by
    intro other
    rw [mem_teamEntries_iff]
    refine exists_congr fun player => and_congr_right fun hPlayer => ?_
    have hTheirs := observer.side_ne_of_mem_build observation deadline hSide hPrevious player
      (List.mem_of_getElem? hPlayer)
    rw [Bool.not_eq_true', decide_eq_false_iff_not, and_iff_right hTheirs]
  show teamSlots (teamEntries _ (observer.build observation previous deadline).players) unum =
    some index ↔ _
  rw [teamSlots_eq_some_iff_isGreatest (pairwise_snd_teamEntries _ _)]
  simp only [hEntries]

/-- A build without a side keeps no team as ours and knows no player from before. -/
theorem isSideless_build
    (hBefore : ∀ snapshot, previous = some snapshot → snapshot.ourSide = Side.neutral) :
    (observer.build observation previous deadline).IsSideless := by
  have hOurSide : (observer.build observation previous deadline).ourSide = Side.neutral := hSide
  have hTable := observer.isTeamTable_teammates_build observation deadline hPrevious
  obtain ⟨hSlots, hByReach⟩ := hTable.eq_nil_of_absent
    (observer.side_ne_of_mem_build observation deadline hSide hPrevious)
  have hFastest : (observer.build observation previous deadline).fastestTeammate = none := by
    show firstEvaluated _ (observer.build observation previous deadline).teammatesByReach = none
    rw [hByReach]
    rfl
  exact {
    ourSide_eq := hOurSide
    teammateSlots_eq := hSlots
    teammatesByReach_eq := hByReach
    fastestTeammate_eq := hFastest
    ourOffsideLine_eq :=
      observer.ourOffsideLine_build_of_sideless observation deadline hSide hPrevious
    opponentSlots_eq_some_iff :=
      observer.opponentSlots_build_eq_some_iff observation deadline hSide hPrevious
    find?_eq_none := fun identity hPlays => Snapshot.find?_eq_none_of_neutral hOurSide hPlays
    exists_fresh := fun player hPlayer hSeen =>
      observer.exists_fresh_build observation deadline hBefore hPlayer hSeen
    attribution_eq :=
      observer.attribution_build_of_sideless observation deadline hBefore hPrevious }

end Build

/-! ## Two observers in one frame -/

/-- Two observers of one agent differ at most in the name of a side, and not in the frame. -/
structure SharesFrame (observer other : Observer R) : Prop where
  config_eq : observer.config = other.config
  selfUnum_eq : observer.selfUnum = other.selfUnum
  isTurned_eq : observer.perspective.isTurned = other.perspective.isTurned

section Frame

variable {observer other : Observer R} (hFrame : observer.SharesFrame other)

include hFrame

theorem SharesFrame.turnVector_eq :
    (observer.perspective.turnVector : Vec2 R → Vec2 R) = other.perspective.turnVector := by
  funext v
  unfold Perspective.turnVector
  rw [hFrame.isTurned_eq]

variable {previous previous' : Option (Snapshot R)}
  (hPast : Option.Rel Snapshot.HasSamePresence previous previous')

include hPast

theorem SharesFrame.ball_eq (deadline : Deadline) :
    (observer.build observation previous deadline).ball =
      (other.build observation previous' deadline).ball := by
  have hPastBall : previous.map Snapshot.ball = previous'.map Snapshot.ball := by
    cases hPast with
    | none => rfl
    | some hSame => exact congrArg some hSame.ball_eq
  rw [observer.build_ball observation previous deadline ⟨previous.map Snapshot.ball, none⟩ rfl,
    other.build_ball observation previous' deadline ⟨previous.map Snapshot.ball, none⟩ hPastBall]
  unfold IdentityTrack.nextBall
  rw [hFrame.turnVector_eq, hFrame.config_eq]

/-- From the same past one observation leads to the same players. -/
theorem SharesFrame.presence_perm (deadline : Deadline)
    (hPrevious : ∀ snapshot, previous = some snapshot → snapshot.HoldsRoster)
    (hPrevious' : ∀ snapshot, previous' = some snapshot → snapshot.HoldsRoster) :
    ((observer.build observation previous deadline).players.map Player.presence).Perm
      ((other.build observation previous' deadline).players.map Player.presence) := by
  have hPresences : (presences previous).Perm (presences previous') := by
    cases hPast with
    | none => exact List.Perm.refl []
    | some hSame => exact hSame.presence_perm
  have hRecords : AcceptedRecord.presence observer.perspective =
      (AcceptedRecord.presence other.perspective : AcceptedRecord R → Presence R) := by
    unfold AcceptedRecord.presence
    rw [hFrame.turnVector_eq]
  have hOne := observer.map_build_players_perm observation previous deadline
    observer.presence_evaluate
  have hOther := other.map_build_players_perm observation previous' deadline
    other.presence_evaluate
  rw [observer.map_presence_tracked observation hPrevious, hRecords, hFrame.config_eq] at hOne
  rw [other.map_presence_tracked observation hPrevious'] at hOther
  refine hOne.trans (List.Perm.trans ?_ hOther.symm)
  exact ((hPresences.filter _).map Presence.later).append_left _

theorem SharesFrame.hasSamePresence_build (deadline : Deadline)
    (hPrevious : ∀ snapshot, previous = some snapshot → snapshot.HoldsRoster)
    (hPrevious' : ∀ snapshot, previous' = some snapshot → snapshot.HoldsRoster) :
    (observer.build observation previous deadline).HasSamePresence
      (other.build observation previous' deadline) := by
  have hBall := hFrame.ball_eq observation hPast deadline
  have hTrajectory : observer.trajectoryOf (observer.build observation previous deadline).ball =
      other.trajectoryOf (other.build observation previous' deadline).ball := by
    rw [hBall]
    unfold trajectoryOf
    rw [hFrame.config_eq]
  exact {
    cycle_eq := rfl
    selfUnum_eq := hFrame.selfUnum_eq
    playMode_eq := rfl
    ball_eq := hBall
    trajectory_eq := hTrajectory
    diagnostics_eq := rfl
    presence_perm := hFrame.presence_perm observation hPast deadline hPrevious hPrevious' }

end Frame

end Observer

/-! ## Every run -/

namespace WorldModel

/-- A model without a side, and one in the same frame that knows the same of who was present. -/
structure IsSidelessTwin (model other : WorldModel R) : Prop where
  ourSide_eq : model.observer.perspective.ourSide = Side.neutral
  frame : model.observer.SharesFrame other.observer
  roster : ∀ snapshot, model.current = some snapshot → snapshot.HoldsRoster
  roster' : ∀ snapshot, other.current = some snapshot → snapshot.HoldsRoster
  sideless : ∀ snapshot, model.current = some snapshot → snapshot.IsSideless
  past : Option.Rel Snapshot.HasSamePresence model.current other.current

theorem IsSidelessTwin.step {model other : WorldModel R} (hTwin : model.IsSidelessTwin other)
    (event : WorldEvent R) : (model.step event).IsSidelessTwin (other.step event) := by
  cases event with
  | reset =>
      refine ⟨hTwin.ourSide_eq, hTwin.frame, ?_, ?_, ?_, Option.Rel.none⟩
      · intro snapshot hNone
        contradiction
      · intro snapshot hNone
        contradiction
      · intro snapshot hNone
        contradiction
  | update observation deadline =>
      have hBefore : ∀ snapshot, model.current = some snapshot →
          snapshot.ourSide = Side.neutral :=
        fun snapshot hSnapshot => (hTwin.sideless snapshot hSnapshot).ourSide_eq
      refine ⟨hTwin.ourSide_eq, hTwin.frame, ?_, ?_, ?_, Option.Rel.some ?_⟩
      · rintro snapshot ⟨⟩
        exact model.observer.holdsRoster_build observation deadline hTwin.roster
      · rintro snapshot ⟨⟩
        exact other.observer.holdsRoster_build observation deadline hTwin.roster'
      · rintro snapshot ⟨⟩
        exact model.observer.isSideless_build observation deadline hTwin.ourSide_eq hTwin.roster
          hBefore
      · exact hTwin.frame.hasSamePresence_build observation hTwin.past deadline hTwin.roster
          hTwin.roster'

theorem IsSidelessTwin.trace {model other : WorldModel R} (hTwin : model.IsSidelessTwin other)
    (events : List (WorldEvent R)) :
    List.Forall₂ IsSidelessTwin (model.trace events) (other.trace events) := by
  induction events generalizing model other with
  | nil => exact List.Forall₂.nil
  | cons event events ih =>
      have hNext := hTwin.step event
      exact List.Forall₂.cons hNext (ih hNext)

/-- A world model without a side publishes, event by event, who is present as one on the left side
does, but in snapshots without a side. -/
theorem sideless_trace (config : WorldConfig R) (selfUnum : Option Nat)
    (events : List (WorldEvent R)) :
    List.Forall₂ (fun model other =>
        (∀ snapshot, model.current = some snapshot → snapshot.IsSideless) ∧
          Option.Rel Snapshot.HasSamePresence model.current other.current)
      ((start (Observer.create Side.neutral config selfUnum)).trace events)
      ((start (Observer.create Side.left config selfUnum)).trace events) := by
  have hTwin : (start (Observer.create Side.neutral config selfUnum)).IsSidelessTwin
      (start (Observer.create Side.left config selfUnum)) := by
    refine ⟨rfl, ⟨rfl, rfl, rfl⟩, ?_, ?_, ?_, Option.Rel.none⟩
    · intro snapshot hNone
      contradiction
    · intro snapshot hNone
      contradiction
    · intro snapshot hNone
      contradiction
  exact (hTwin.trace events).imp fun model other hBoth => ⟨hBoth.sideless, hBoth.past⟩

/-- The player with number seven on the left side. -/
def leftSeven : Identity :=
  ⟨Side.left, 7, by decide, by decide⟩

/-- A cycle in which both players with number seven are seen. -/
def bothSevens : CycleObservation Float where
  cycle := 1
  players :=
    [{ side := Side.left, unum := some 7, position := Vec2.zero },
      { side := Side.right, unum := some 7, position := Vec2.zero }]

/-- The look-up finds a player from the left side, but not without a side. -/
theorem find?_leftSeven_sideless :
    (∃ snapshot player, ((start (Observer.create Side.left WorldConfig.standard none)).run
        [.update bothSevens .ahead]).current = some snapshot ∧
          snapshot.find? leftSeven = some player) ∧
      ∃ snapshot, ((start (Observer.create Side.neutral WorldConfig.standard none)).run
        [.update bothSevens .ahead]).current = some snapshot ∧
          snapshot.find? leftSeven = none := by
  let observer : Observer Float := Observer.create Side.left WorldConfig.standard none
  have hCoherent : (observer.build bothSevens none .ahead).IsCoherent := by
    refine observer.isCoherent_build bothSevens .ahead rfl ?_
    intro snapshot hNone
    contradiction
  have hTracked : Player.fresh (some leftSeven.unum)
      { side := Side.left, unum := some 7, position := Vec2.zero } ∈
        observer.tracked bothSevens none := List.mem_cons_self
  have hPerm := observer.build_players_perm bothSevens none .ahead
  rw [observer.evaluateAll_ahead] at hPerm
  have hMem := hPerm.mem_iff.mpr (List.mem_map_of_mem hTracked)
  have hFind := (hCoherent.find?_eq_some_iff leftSeven _).mpr
    ⟨hMem, observer.identity?_evaluate true _ _⟩
  exact ⟨⟨_, _, rfl, hFind⟩, _, rfl, Snapshot.find?_eq_none_of_neutral rfl rfl⟩

end WorldModel

end SoccerWorld
