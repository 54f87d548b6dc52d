import Mathlib.Data.List.Induction
import SoccerWorld.Proofs.World.Invariant

/-!
# One player followed on its own

`IdentityTrack` follows a single player and the ball.  In every cycle it takes the first valid
record of that player, if there is one, and nothing of any other player.

A build follows many players at once, through a list of records, tables of positions and a sort.
Main statement: what it makes of one player is nevertheless what one step of that player's track
makes of it (`Observer.recordsOf_build`).

Of a deadline a track knows only whether there is time for its player.  That much of it decides
about the reach step and nothing else (`run_untimed`).  Where the clock says the same for all
players, it is what the clock says first; otherwise it depends on the player's place among the
others.
-/

namespace SoccerWorld

variable {R : Type} [Scalar R]

/-- What one event says about the ball and about one player. -/
inductive Sighting (R : Type) [Scalar R] where
  /-- A cycle, with the ball and the player's record where they were seen. -/
  | cycle (ball : Option (BallObservation R)) (record : Option (PlayerObservation R))
      (inTime : Bool)
  /-- The past is forgotten. -/
  | reset

/-- What an event says about one player: of all records only the first that names it, and of the
clock what it says first. -/
def WorldEvent.sighting (identity : Identity) : WorldEvent R → Sighting R
  | update observation deadline =>
      .cycle observation.ball (PlayerObservation.firstNaming identity observation.players)
        (deadline.hasTime 0)
  | reset => .reset

/-- In a cycle, the clock says the same for all players. -/
def WorldEvent.IsSteady : WorldEvent R → Prop
  | update _ deadline => deadline.IsSteady
  | reset => True

/-- The sighting of a cycle in which no reach step is predicted. -/
def Sighting.untimed : Sighting R → Sighting R
  | cycle ball record _ => cycle ball record false
  | reset => reset

/-- The player without its reach step. -/
def Player.unevaluated (player : Player R) : Player R :=
  { player with reachStep := none }

/-- The ball and one player, each absent while unknown. -/
structure IdentityTrack (R : Type) [Scalar R] where
  /-- The ball, after the first cycle. -/
  ball : Option (Ball R)
  /-- The player, while it is known. -/
  player : Option (Player R)

namespace IdentityTrack

/-- Nothing was seen. -/
def start : IdentityTrack R :=
  ⟨none, none⟩

/-- The ball after a cycle. -/
def nextBall (observer : Observer R) (track : IdentityTrack R)
    (seen : Option (BallObservation R)) : Ball R :=
  match seen, track.ball with
  | some seen, _ =>
      Ball.observed ⟨observer.perspective.turnVector seen.position,
        observer.perspective.turnVector seen.velocity⟩
  | none, some ball => ball.propagated observer.config.rules.ballDecay
  | none, none => Ball.unknown

/-- The player after a cycle, before its reach step is predicted: a record begins or continues it,
and without a record it rolls on by the motion of its type, for a limited time. -/
def nextPlayer (observer : Observer R) (identity : Identity) (track : IdentityTrack R)
    (record : Option (PlayerObservation R)) : Option (Player R) :=
  match record, track.player with
  | some record, none =>
      some (Player.fresh (some identity.unum) (record.turn observer.perspective))
  | some record, some player => some (player.observe (record.turn observer.perspective))
  | none, some player =>
      if Word.succ player.ages.seen ≤ observer.config.maxUnseenCycles then
        some (player.carry (observer.types.get player.typeId))
      else none
  | none, none => none

/-- The track after an event. -/
def step (observer : Observer R) (identity : Identity) (track : IdentityTrack R) :
    Sighting R → IdentityTrack R
  | .cycle seen record inTime =>
      let ball := track.nextBall observer seen
      ⟨some ball, (track.nextPlayer observer identity record).map
        (observer.evaluate inTime (observer.trajectoryOf ball))⟩
  | .reset => start

/-- The track after a list of events. -/
def run (observer : Observer R) (identity : Identity) (sightings : List (Sighting R)) :
    IdentityTrack R :=
  sightings.foldl (step observer identity) start

/-- The players that the track stands for, after the first cycle: one or none. -/
def records (track : IdentityTrack R) : Option (List (Player R)) :=
  track.ball.map fun _ => track.player.toList

/-- A track does not depend on which player the agent itself is. -/
theorem run_create (ourSide : Side) (config : WorldConfig R) (selfUnum otherUnum : Option Nat) :
    run (Observer.create ourSide config selfUnum) =
      run (Observer.create ourSide config otherUnum) := rfl

/-! ## Tracks and deadlines -/

/-- Reach steps do not enter the next cycle. -/
theorem nextPlayer_congr (observer : Observer R) (identity : Identity)
    {track other : IdentityTrack R}
    (hPlayer : track.player.map Player.unevaluated = other.player.map Player.unevaluated)
    (record : Option (PlayerObservation R)) :
    track.nextPlayer observer identity record = other.nextPlayer observer identity record := by
  have hSelf : ∀ player : Option (Player R),
      (⟨track.ball, player⟩ : IdentityTrack R).nextPlayer observer identity record =
        (⟨track.ball, player.map Player.unevaluated⟩ : IdentityTrack R).nextPlayer observer
          identity record := by
    intro player
    cases record <;> cases player <;> rfl
  calc track.nextPlayer observer identity record
      = (⟨track.ball, track.player.map Player.unevaluated⟩ : IdentityTrack R).nextPlayer observer
          identity record := hSelf track.player
    _ = (⟨track.ball, other.player.map Player.unevaluated⟩ : IdentityTrack R).nextPlayer observer
          identity record := by rw [hPlayer]
    _ = other.nextPlayer observer identity record := (hSelf other.player).symm

@[simp]
theorem unevaluated_evaluate (observer : Observer R) (inTime : Bool)
    (trajectory : Trajectory R) (player : Player R) :
    (observer.evaluate inTime trajectory player).unevaluated = player.unevaluated :=
  observer.apply_evaluate inTime trajectory player fun _ _ => rfl

theorem map_unevaluated_evaluate (observer : Observer R) (inTime : Bool)
    (trajectory : Trajectory R) (player : Option (Player R)) :
    (player.map (observer.evaluate inTime trajectory)).map Player.unevaluated =
      player.map Player.unevaluated := by
  rw [Option.map_map]
  exact Option.map_congr fun player _ => unevaluated_evaluate observer inTime trajectory player

/-- Time decides about reach steps and nothing else. -/
theorem run_untimed (observer : Observer R) (identity : Identity) (sightings : List (Sighting R)) :
    (run observer identity sightings).ball =
        (run observer identity (sightings.map Sighting.untimed)).ball ∧
      (run observer identity sightings).player.map Player.unevaluated =
        (run observer identity (sightings.map Sighting.untimed)).player.map
          Player.unevaluated := by
  induction sightings using List.reverseRecOn with
  | nil => exact ⟨rfl, rfl⟩
  | append_singleton sightings sighting ih =>
      obtain ⟨hBall, hPlayer⟩ := ih
      unfold run at hBall hPlayer ⊢
      rw [List.map_append, List.foldl_append, List.foldl_append]
      cases sighting with
      | reset => exact ⟨rfl, rfl⟩
      | cycle seen record inTime =>
          constructor
          · show some (nextBall _ _ _) = some (nextBall _ _ _)
            unfold nextBall
            rw [hBall]
          · show ((nextPlayer _ _ _ _).map _).map _ = ((nextPlayer _ _ _ _).map _).map _
            rw [map_unevaluated_evaluate, map_unevaluated_evaluate,
              nextPlayer_congr observer identity hPlayer]

theorem records_run_untimed (observer : Observer R) (identity : Identity)
    (sightings : List (Sighting R)) :
    (run observer identity sightings).records.map (List.map Player.unevaluated) =
      (run observer identity (sightings.map Sighting.untimed)).records.map
        (List.map Player.unevaluated) := by
  obtain ⟨hBall, hPlayer⟩ := run_untimed observer identity sightings
  unfold records
  rw [Option.map_map, Option.map_map, hBall]
  refine Option.map_congr fun ball _ => ?_
  rw [Function.comp_apply, Function.comp_apply, ← Option.toList_map, ← Option.toList_map, hPlayer]

end IdentityTrack

/-! ## One player among the tracked players -/

namespace PlayerObservation

/-- The kept records name a player exactly if some record does. -/
theorem mem_identities_sift_iff (identity : Identity) (records : List (PlayerObservation R)) :
    identity ∈ (sift [] records).1.filterMap AcceptedRecord.identity? ↔
      (firstNaming identity records).isSome = true := by
  have hKept := filter_identity_sift identity [] records
  rw [if_neg List.not_mem_nil] at hKept
  constructor
  · intro hMem
    obtain ⟨entry, hEntry, hIdentity⟩ := List.mem_filterMap.mp hMem
    have hFilter : entry ∈ (sift [] records).1.filter fun entry =>
        entry.identity? = some identity :=
      List.mem_filter.mpr ⟨hEntry, decide_eq_true hIdentity⟩
    rw [hKept, Option.mem_toList, Option.map_eq_some_iff] at hFilter
    obtain ⟨record, hFirst, -⟩ := hFilter
    rw [hFirst]
    rfl
  · intro hSome
    obtain ⟨record, hFirst⟩ := Option.isSome_iff_exists.mp hSome
    rw [hFirst, Option.map_some, Option.toList_some] at hKept
    have hEntry : AcceptedRecord.mk (some identity.unum) record ∈
        (sift [] records).1.filter fun entry => entry.identity? = some identity := by
      rw [hKept]
      exact List.mem_singleton_self _
    obtain ⟨hMem, hIdentity⟩ := List.mem_filter.mp hEntry
    exact List.mem_filterMap.mpr ⟨_, hMem, of_decide_eq_true hIdentity⟩

end PlayerObservation

namespace Tracking

variable {previous : Option (Snapshot R)}

/-- The observed players of one identity: what its first record makes of the known player. -/
theorem filter_identity_enlist
    (hPrevious : ∀ snapshot, previous = some snapshot → snapshot.IsCoherent) (identity : Identity)
    (view : Perspective) (records : List (PlayerObservation R)) :
    ((PlayerObservation.sift [] records).1.map fun entry =>
        enlist previous { entry with record := entry.record.turn view }).filter
          (fun player => player.identity? = some identity) =
      ((PlayerObservation.firstNaming identity records).map fun record =>
        observeIdentity (previous.bind fun snapshot => snapshot.find? identity) identity.unum
          (record.turn view)).toList := by
  have hSame : (fun player : Player R => decide (player.identity? = some identity)) ∘
      (fun entry : AcceptedRecord R =>
        enlist previous { entry with record := entry.record.turn view }) =
        fun entry => decide (entry.identity? = some identity) := by
    funext entry
    rw [Function.comp_apply, identity?_enlist fun snapshot hSnapshot =>
      (hPrevious snapshot hSnapshot).holdsRoster]
    rfl
  rw [List.filter_map, hSame, PlayerObservation.filter_identity_sift, if_neg List.not_mem_nil]
  cases hFirst : PlayerObservation.firstNaming identity records with
  | none => rfl
  | some record =>
      -- The record is on the side of the identity, so the look-up is for that very identity.
      have hNames := PlayerObservation.names_eq_true_iff.mp (List.find?_some hFirst)
      obtain ⟨unum, -, hIdentity⟩ := Option.map_eq_some_iff.mp hNames.2
      have hSide : record.side = identity.side := congrArg Identity.side hIdentity
      show [enlist previous ⟨some identity.unum, record.turn view⟩] = _
      simp only [enlist, PlayerObservation.turn_side, hSide]
      rfl

/-- The players of one identity that roll on: the known player, if no record names it. -/
theorem filter_identity_rolling
    (hPrevious : ∀ snapshot, previous = some snapshot → snapshot.IsCoherent) (identity : Identity)
    (maxUnseen : UInt32) (seen : List Identity) :
    (rolling maxUnseen seen previous).filter (fun player => player.identity? = some identity) =
      ((previous.bind fun snapshot => snapshot.find? identity).filter fun player =>
        identity ∉ seen ∧ Word.succ player.ages.seen ≤ maxUnseen).toList := by
  cases previous with
  | none => rfl
  | some snapshot =>
      have hCoherent := hPrevious snapshot rfl
      have hRecords := hCoherent.recordsOf_eq identity
      rw [Snapshot.recordsOf] at hRecords
      show (snapshot.players.filter (rollsOn maxUnseen seen)).filter _ = _
      rw [List.filter_comm, hRecords, Option.bind_some]
      cases hFind : snapshot.find? identity with
      | none => rfl
      | some player =>
          have hIdentity := hCoherent.identity_of_find? hFind
          have hRolls : rollsOn maxUnseen seen player =
              decide (identity ∉ seen ∧ Word.succ player.ages.seen ≤ maxUnseen) := by
            simp [rollsOn, hIdentity]
          rw [Option.toList_some, List.filter_singleton, hRolls, Option.filter_some]
          cases decide (identity ∉ seen ∧ Word.succ player.ages.seen ≤ maxUnseen) <;> rfl

end Tracking

namespace Observer

variable {previous : Option (Snapshot R)}

/-- Among the tracked players of a build, those of one identity are the next player of its track. -/
theorem filter_identity_tracked (observer : Observer R) (observation : CycleObservation R)
    (hPrevious : ∀ snapshot, previous = some snapshot → snapshot.IsCoherent) (identity : Identity)
    (track : IdentityTrack R)
    (hTrack : track.player = previous.bind fun snapshot => snapshot.find? identity) :
    (observer.tracked observation previous).filter
        (fun player => player.identity? = some identity) =
      (track.nextPlayer observer identity
        (PlayerObservation.firstNaming identity observation.players)).toList := by
  have hCarry : ∀ players : List (Player R), (players.map fun player =>
      player.carry (observer.types.get player.typeId)).filter
        (fun player => player.identity? = some identity) =
      (players.filter fun player => player.identity? = some identity).map fun player =>
        player.carry (observer.types.get player.typeId) := by
    intro players
    rw [List.filter_map]
    rfl
  have hSeen := PlayerObservation.mem_identities_sift_iff identity observation.players
  rw [tracked, Tracking.players_eq, List.filter_append, hCarry,
    Tracking.filter_identity_enlist hPrevious, Tracking.filter_identity_rolling hPrevious, ← hTrack]
  -- From here on the records matter only through the first one that names the player.
  generalize (PlayerObservation.sift [] observation.players).1.filterMap
    AcceptedRecord.identity? = seen at hSeen ⊢
  cases hFirst : PlayerObservation.firstNaming identity observation.players with
  | some record =>
      rw [hFirst] at hSeen
      have hNamed : identity ∈ seen := hSeen.mpr rfl
      cases hPlayer : track.player with
      | none => simp [IdentityTrack.nextPlayer, hPlayer, Tracking.observeIdentity]
      | some player =>
          simp [IdentityTrack.nextPlayer, hPlayer, Tracking.observeIdentity, hNamed]
  | none =>
      rw [hFirst, Option.isSome_none, Bool.false_eq_true, iff_false] at hSeen
      cases hPlayer : track.player with
      | none => simp [IdentityTrack.nextPlayer, hPlayer]
      | some player =>
          by_cases hYoung : Word.succ player.ages.seen ≤ observer.config.maxUnseenCycles
          · simp [IdentityTrack.nextPlayer, hPlayer, hSeen, hYoung]
          · simp [IdentityTrack.nextPlayer, hPlayer, hSeen, hYoung, UInt32.not_le.mp hYoung]

/-! ## A build and a step of the track -/

theorem build_ball (observer : Observer R) (observation : CycleObservation R)
    (previous : Option (Snapshot R)) (deadline : Deadline) (track : IdentityTrack R)
    (hTrack : track.ball = previous.map Snapshot.ball) :
    (observer.build observation previous deadline).ball =
      track.nextBall observer observation.ball := by
  show Tracking.ball _ _ _ _ = _
  unfold Tracking.ball IdentityTrack.nextBall
  rw [hTrack]
  cases observation.ball with
  | some seen => cases previous <;> rfl
  | none => cases previous <;> rfl

/-- The players of one identity in a new snapshot are the next player of its track, evaluated as the
deadline has it for some place.  Of the track's player the reach step does not matter. -/
theorem recordsOf_build (observer : Observer R) (observation : CycleObservation R)
    (deadline : Deadline)
    (hPrevious : ∀ snapshot, previous = some snapshot → snapshot.IsCoherent) (identity : Identity)
    (track : IdentityTrack R) (hBall : track.ball = previous.map Snapshot.ball)
    (hPlayer : track.player.map Player.unevaluated =
      (previous.bind fun snapshot => snapshot.find? identity).map Player.unevaluated) :
    ∃ place,
      (observer.build observation previous deadline).recordsOf identity =
        (track.step observer identity
          (.cycle observation.ball (PlayerObservation.firstNaming identity observation.players)
            (deadline.reaches observer.config.search.evaluation place))).player.toList := by
  have hNext : (observer.tracked observation previous).filter
      (fun player => player.identity? = some identity) =
      (track.nextPlayer observer identity
        (PlayerObservation.firstNaming identity observation.players)).toList := by
    rw [observer.filter_identity_tracked observation hPrevious identity
      ⟨track.ball, previous.bind fun snapshot => snapshot.find? identity⟩ rfl]
    exact congrArg _ (IdentityTrack.nextPlayer_congr observer identity hPlayer.symm _)
  have hPerm := (observer.build_players_perm observation previous deadline).filter
    fun player => decide (player.identity? = some identity)
  have hEvaluated := observer.forall₂_filter_evaluateAll deadline
    (observer.trajectoryOf (observer.build observation previous deadline).ball)
    (observer.tracked observation previous)
    (p := fun player => decide (player.identity? = some identity)) fun inTime player =>
      by rw [identity?_evaluate]
  rw [observer.build_ball observation previous deadline track hBall] at hPerm hEvaluated
  rw [hNext] at hEvaluated
  -- There is at most one such player, so the sort cannot have moved it.
  unfold Snapshot.recordsOf IdentityTrack.step
  dsimp only
  cases hKnown : track.nextPlayer observer identity
      (PlayerObservation.firstNaming identity observation.players) with
  | none =>
      rw [hKnown, Option.toList_none, List.forall₂_nil_left_iff] at hEvaluated
      rw [hEvaluated] at hPerm
      exact ⟨0, hPerm.eq_nil⟩
  | some player =>
      rw [hKnown, Option.toList_some] at hEvaluated
      obtain ⟨evaluated, rest, ⟨place, rfl⟩, hRest, hList⟩ :=
        List.forall₂_cons_left_iff.mp hEvaluated
      rw [List.forall₂_nil_left_iff.mp hRest] at hList
      rw [hList] at hPerm
      exact ⟨place, hPerm.eq_singleton⟩

/-- With a steady clock they are what the track makes of the event. -/
theorem recordsOf_build_of_isSteady (observer : Observer R) (observation : CycleObservation R)
    {deadline : Deadline} (hSteady : deadline.IsSteady)
    (hPrevious : ∀ snapshot, previous = some snapshot → snapshot.IsCoherent) (identity : Identity)
    (track : IdentityTrack R) (hBall : track.ball = previous.map Snapshot.ball)
    (hPlayer : track.player.map Player.unevaluated =
      (previous.bind fun snapshot => snapshot.find? identity).map Player.unevaluated) :
    (observer.build observation previous deadline).recordsOf identity =
      (track.step observer identity
        (WorldEvent.sighting identity (.update observation deadline))).player.toList := by
  obtain ⟨place, hRecords⟩ :=
    observer.recordsOf_build observation deadline hPrevious identity track hBall hPlayer
  rw [hRecords, hSteady.reaches_eq]
  rfl

end Observer

end SoccerWorld
