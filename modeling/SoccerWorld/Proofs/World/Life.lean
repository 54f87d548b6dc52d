import SoccerWorld.Proofs.World.Independence
import SoccerWorld.Proofs.World.Sightings

/-!
# The life of a tracked player

A player's life begins with the record that creates it and goes on for as long as the world model
knows the player.  A player that is known after some events has such a life
(`WorldModel.exists_isLife`).

In the course of a life a record is taken over, a cycle without one carries the player on, and a
reach step may be predicted.  Nothing else happens to a player (`WorldModel.IsLife.lives`), so what
these operations preserve holds of every player of every run.
-/

namespace SoccerWorld

variable {R : Type} [Scalar R]

namespace WorldEvent

/-- The accepted record of a player in an event. -/
def record? (identity : Identity) : WorldEvent R → Option (PlayerObservation R)
  | update observation _ => PlayerObservation.firstNaming identity observation.players
  | reset => none

/-- What some events say of a player, event by event, the latest first. -/
def reports (identity : Identity) (events : List (WorldEvent R)) :
    List (Option (PlayerObservation R)) :=
  (events.map (record? identity)).reverse

theorem reports_append_singleton (identity : Identity) (events : List (WorldEvent R))
    (event : WorldEvent R) :
    reports identity (events ++ [event]) = event.record? identity :: reports identity events := by
  unfold reports
  rw [List.map_append, List.reverse_append]
  rfl

end WorldEvent

namespace IdentityTrack

variable (observer : Observer R) (identity : Identity) {track : IdentityTrack R}

/-- A record of a known player is taken over. -/
theorem nextPlayer_of_known {player : Player R} (hTrack : track.player = some player)
    (record : PlayerObservation R) :
    track.nextPlayer observer identity (some record) =
      some (player.observe (record.turn observer.perspective)) := by
  unfold nextPlayer
  rw [hTrack]

/-- A record of an unknown player creates it. -/
theorem nextPlayer_of_unknown (hTrack : track.player = none) (record : PlayerObservation R) :
    track.nextPlayer observer identity (some record) =
      some (Player.fresh (some identity.unum) (record.turn observer.perspective)) := by
  unfold nextPlayer
  rw [hTrack]

end IdentityTrack

namespace Player

/-- What can become of a player that was created in the given view, the latest report first. -/
inductive Lives (view : Perspective) : List (Option (PlayerObservation R)) → Player R → Prop
  | begins (unum : Option Unum) (record : PlayerObservation R) :
      Lives view [some record] (Player.fresh unum (record.turn view))
  | seen {reports : List (Option (PlayerObservation R))} {player : Player R}
      (hPast : Lives view reports player) (record : PlayerObservation R) :
      Lives view (some record :: reports) (player.observe (record.turn view))
  | missed {reports : List (Option (PlayerObservation R))} {player : Player R}
      (hPast : Lives view reports player) (motion : Locomotion R) :
      Lives view (none :: reports) (player.carry motion)
  | evaluated {reports : List (Option (PlayerObservation R))} {player : Player R}
      (hPast : Lives view reports player) (step : Option UInt32) :
      Lives view reports { player with reachStep := step }

namespace Lives

variable {view : Perspective} {reports : List (Option (PlayerObservation R))} {player : Player R}

theorem evaluate (hLives : Lives view reports player) (observer : Observer R)
    (inTime : Bool) (trajectory : Trajectory R) :
    Lives view reports (observer.evaluate inTime trajectory player) := by
  cases inTime with
  | false => exact hLives
  | true => exact hLives.evaluated _

/-- A life has a record: the one that began it. -/
theorem exists_record (hLives : Lives view reports player) : ∃ record, some record ∈ reports := by
  induction hLives with
  | begins unum record => exact ⟨record, List.mem_singleton_self _⟩
  | seen hPast record ih => exact ⟨record, List.mem_cons_self⟩
  | missed hPast motion ih =>
      obtain ⟨record, hRecord⟩ := ih
      exact ⟨record, List.mem_cons_of_mem _ hRecord⟩
  | evaluated hPast step ih => exact ih

/-- The next cycle of a known player, with or without a record. -/
theorem nextPlayer {observer : Observer R} {identity : Identity} {track : IdentityTrack R}
    {record : Option (PlayerObservation R)} {next : Player R}
    (hLives : player.Lives observer.perspective reports) (hTrack : track.player = some player)
    (hNext : track.nextPlayer observer identity record = some next) :
    next.Lives observer.perspective (record :: reports) := by
  cases record with
  | none =>
      rw [IdentityTrack.nextPlayer_none_eq_some_iff, hTrack] at hNext
      obtain ⟨old, hOld, -, rfl⟩ := hNext
      obtain rfl := Option.some.inj hOld
      exact hLives.missed _
  | some record =>
      rw [IdentityTrack.nextPlayer_of_known observer identity hTrack] at hNext
      obtain rfl := Option.some.inj hNext
      exact hLives.seen record

end Lives

/-- The first cycle of a player that was not known. -/
theorem lives_nextPlayer_of_unknown {observer : Observer R} {identity : Identity}
    {track : IdentityTrack R} {record : Option (PlayerObservation R)} {next : Player R}
    (hTrack : track.player = none)
    (hNext : track.nextPlayer observer identity record = some next) :
    next.Lives observer.perspective [record] := by
  cases record with
  | none =>
      rw [IdentityTrack.nextPlayer_none_eq_some_iff, hTrack] at hNext
      obtain ⟨old, hOld, -⟩ := hNext
      contradiction
  | some record =>
      rw [IdentityTrack.nextPlayer_of_unknown observer identity hTrack] at hNext
      obtain rfl := Option.some.inj hNext
      exact Lives.begins _ record

end Player

namespace WorldModel

/-- The player of an identity as a world model knows it after some events. -/
def playerAfter (observer : Observer R) (identity : Identity) (events : List (WorldEvent R)) :
    Option (Player R) :=
  ((start observer).run events).current.bind fun snapshot => snapshot.find? identity

/-- The events of `life` are one life of the player: it is not known before the first of them, and
known after each of them. -/
structure IsLife (observer : Observer R) (identity : Identity)
    (before life : List (WorldEvent R)) : Prop where
  ne_nil : life ≠ []
  unknown : playerAfter observer identity before = none
  known : ∀ first, first <+: life → first ≠ [] →
    (playerAfter observer identity (before ++ first)).isSome = true

theorem playerAfter_eq_some {observer : Observer R} {identity : Identity}
    {events : List (WorldEvent R)} {snapshot : Snapshot R} {player : Player R}
    (hCurrent : ((start observer).run events).current = some snapshot)
    (hFind : snapshot.find? identity = some player) :
    playerAfter observer identity events = some player := by
  rw [playerAfter, hCurrent, Option.bind_some, hFind]

variable (observer : Observer R) (identity : Identity)

theorem playerAfter_append_reset (events : List (WorldEvent R)) :
    playerAfter observer identity (events ++ [.reset]) = none := by
  rw [playerAfter, run_append]
  rfl

/-- After one more cycle the player is the next player of its track, evaluated. -/
theorem exists_playerAfter_append_update
    (hSide : observer.perspective.ourSide.isAssigned = true) (events : List (WorldEvent R))
    (observation : CycleObservation R) (deadline : Deadline) :
    ∃ (track : IdentityTrack R) (inTime : Bool) (trajectory : Trajectory R),
      track.player = playerAfter observer identity events ∧
      playerAfter observer identity (events ++ [.update observation deadline]) =
        (track.nextPlayer observer identity
          (PlayerObservation.firstNaming identity observation.players)).map
            (observer.evaluate inTime trajectory) := by
  have hCoherent : ∀ snapshot, ((start observer).run events).current = some snapshot →
      snapshot.IsCoherent := fun snapshot hCurrent =>
    (isReachable_of_current_run observer hSide events snapshot hCurrent).isCoherent
  have hBuild := observer.isCoherent_build observation deadline hSide hCoherent
  obtain ⟨place, hRecords⟩ := observer.recordsOf_build observation deadline hCoherent identity
    ⟨((start observer).run events).current.map Snapshot.ball,
      playerAfter observer identity events⟩ rfl rfl
  have hNext : playerAfter observer identity (events ++ [.update observation deadline]) =
      (observer.build observation ((start observer).run events).current deadline).find?
        identity := by
    rw [playerAfter, run_append]
    show (((start observer).run events).observer.build observation _ deadline).find? _ = _
    rw [observer_run]
    rfl
  rw [hNext, hBuild.find?_eq_of_recordsOf_eq hRecords]
  exact ⟨_, _, _, rfl, rfl⟩

variable {observer} {identity}

/-- A known player has a life, whose last event is the last of the run. -/
theorem exists_isLife {events : List (WorldEvent R)} {player : Player R}
    (hKnown : playerAfter observer identity events = some player) :
    ∃ before life, events = before ++ life ∧ IsLife observer identity before life := by
  induction events using List.reverseRecOn generalizing player with
  | nil => contradiction
  | append_singleton events event ih =>
      cases hBefore : playerAfter observer identity events with
      | none =>
          -- The last event began the life.
          refine ⟨events, [event], rfl, List.cons_ne_nil event [], hBefore, ?_⟩
          intro first hFirst hNotNil
          obtain rfl : first = [event] := by
            rw [← List.nil_append [event], List.prefix_concat_iff] at hFirst
            rcases hFirst with hAll | hNil
            · exact hAll
            · exact absurd (List.prefix_nil.mp hNil) hNotNil
          rw [hKnown]
          rfl
      | some old =>
          obtain ⟨before, life, rfl, hLife⟩ := ih hBefore
          refine ⟨before, life ++ [event], List.append_assoc before life [event], ?_,
            hLife.unknown, ?_⟩
          · exact List.append_ne_nil_of_right_ne_nil life (List.cons_ne_nil event [])
          · intro first hFirst hNotNil
            rcases List.prefix_concat_iff.mp hFirst with hAll | hPart
            · rw [hAll, ← List.append_assoc, hKnown]
              rfl
            · exact hLife.known first hPart hNotNil

namespace IsLife

variable {before life : List (WorldEvent R)}

/-- An initial stretch of a life is a life so far. -/
theorem of_append_singleton {event : WorldEvent R}
    (hLife : IsLife observer identity before (life ++ [event])) (hNotNil : life ≠ []) :
    IsLife observer identity before life where
  ne_nil := hNotNil
  unknown := hLife.unknown
  known first hFirst hFirstNotNil :=
    hLife.known first (hFirst.trans (List.prefix_append life [event])) hFirstNotNil

/-- In a life the player is created by a record, and then observed, carried and evaluated. -/
theorem lives (hSide : observer.perspective.ourSide.isAssigned = true)
    (hLife : IsLife observer identity before life) {player : Player R}
    (hKnown : playerAfter observer identity (before ++ life) = some player) :
    player.Lives observer.perspective (WorldEvent.reports identity life) := by
  induction life using List.reverseRecOn generalizing player with
  | nil => exact absurd rfl hLife.ne_nil
  | append_singleton life event ih =>
      rw [← List.append_assoc] at hKnown
      rw [WorldEvent.reports_append_singleton]
      cases event with
      | reset =>
          rw [playerAfter_append_reset] at hKnown
          contradiction
      | update observation deadline =>
          obtain ⟨track, inTime, trajectory, hTrack, hStep⟩ :=
            exists_playerAfter_append_update observer identity hSide (before ++ life) observation
              deadline
          rw [hKnown, eq_comm, Option.map_eq_some_iff] at hStep
          obtain ⟨next, hNext, rfl⟩ := hStep
          refine Player.Lives.evaluate ?_ observer inTime trajectory
          by_cases hNil : life = []
          · subst hNil
            rw [List.append_nil, hLife.unknown] at hTrack
            exact Player.lives_nextPlayer_of_unknown hTrack hNext
          · obtain ⟨old, hOld⟩ := Option.isSome_iff_exists.mp
              (hLife.known life (List.prefix_append life _) hNil)
            rw [hOld] at hTrack
            exact (ih (hLife.of_append_singleton hNil) hOld).nextPlayer hTrack hNext

end IsLife

end WorldModel

end SoccerWorld
