import SoccerWorld.Proofs.World.IdentityTrack

/-!
# Players up to reach steps

`SamePlayers` compares two lists of players up to their order and their reach steps.  Tracking never
reads a reach step: from snapshots with the same players it leads to the same tracked players, in
some order (`Observer.tracked_perm`), and so does a build, whatever the deadlines are
(`Observer.samePlayers_build`).
-/

namespace SoccerWorld

variable {R : Type} [Scalar R]

/-- What does not depend on reach steps is the same for players that differ in nothing else. -/
theorem Player.congr_unevaluated {β : Sort _} (f : Player R → β)
    (hf : ∀ player, f player.unevaluated = f player) {player other : Player R}
    (hSame : player.unevaluated = other.unevaluated) : f player = f other := by
  rw [← hf player, hSame, hf other]

/-- Two lists hold the same players, but for their order and their reach steps. -/
def SamePlayers (players others : List (Player R)) : Prop :=
  (players.map Player.unevaluated).Perm (others.map Player.unevaluated)

namespace SamePlayers

variable {players others : List (Player R)}

theorem refl (players : List (Player R)) : SamePlayers players players :=
  List.Perm.refl _

theorem symm (hSame : SamePlayers players others) : SamePlayers others players :=
  List.Perm.symm hSame

/-- Every player of one list is in the other. -/
theorem exists_mem (hSame : SamePlayers players others) {player : Player R}
    (hPlayer : player ∈ players) : ∃ other ∈ others, other.unevaluated = player.unevaluated := by
  have hMem : player.unevaluated ∈ others.map Player.unevaluated :=
    hSame.mem_iff.mp (List.mem_map_of_mem hPlayer)
  exact List.mem_map.mp hMem

/-- A test that does not look at reach steps picks the same players. -/
theorem filter (hSame : SamePlayers players others) (test : Player R → Bool)
    (hTest : ∀ player, test player.unevaluated = test player) :
    SamePlayers (players.filter test) (others.filter test) := by
  have hMap : ∀ list : List (Player R), (list.filter test).map Player.unevaluated =
      (list.map Player.unevaluated).filter test := by
    intro list
    rw [List.filter_map]
    exact congrArg _ (List.filter_congr fun player _ => (hTest player).symm)
  unfold SamePlayers
  rw [hMap, hMap]
  exact List.Perm.filter test hSame

/-- What is made of a player without its reach step is made of the same players. -/
theorem map_perm {β : Type} (hSame : SamePlayers players others) {f : Player R → β}
    (hf : ∀ player, f player.unevaluated = f player) : (players.map f).Perm (others.map f) := by
  have hMap : ∀ list : List (Player R), list.map f = (list.map Player.unevaluated).map f := by
    intro list
    rw [List.map_map]
    exact List.map_congr_left fun player _ => (hf player).symm
  rw [hMap players, hMap others]
  exact List.Perm.map f hSame

theorem filterMap_perm {β : Type} (hSame : SamePlayers players others) {f : Player R → Option β}
    (hf : ∀ player, f player.unevaluated = f player) :
    (players.filterMap f).Perm (others.filterMap f) := by
  have hMap : ∀ list : List (Player R),
      list.filterMap f = (list.map Player.unevaluated).filterMap f := by
    intro list
    rw [List.filterMap_map]
    exact List.filterMap_congr fun player _ => (hf player).symm
  rw [hMap players, hMap others]
  exact List.Perm.filterMap f hSame

end SamePlayers

namespace Snapshot

variable {one other : Snapshot R}

/-- Snapshots with the same players know the same of every identity. -/
theorem map_find?_eq_of_samePlayers (hOne : one.IsCoherent) (hOther : other.IsCoherent)
    (hSame : SamePlayers one.players other.players) (identity : Identity) :
    (one.find? identity).map Player.unevaluated =
      (other.find? identity).map Player.unevaluated := by
  have hRecords : SamePlayers (one.recordsOf identity) (other.recordsOf identity) :=
    hSame.filter _ fun _ => rfl
  rw [hOne.recordsOf_eq, hOther.recordsOf_eq] at hRecords
  unfold SamePlayers at hRecords
  rw [← Option.toList_map, ← Option.toList_map] at hRecords
  -- A list of at most one entry has one arrangement.
  cases hFind : (other.find? identity).map Player.unevaluated with
  | none =>
      rw [hFind] at hRecords
      exact Option.toList_eq_nil_iff.mp hRecords.eq_nil
  | some player =>
      rw [hFind] at hRecords
      exact Option.toList_eq_singleton_iff.mp hRecords.eq_singleton

end Snapshot

namespace Tracking

/-- A record leads to the same player, whatever reach step the known player had. -/
theorem enlist_congr (previous previous' : Option (Snapshot R))
    (hFind : ∀ identity,
      (previous.bind fun snapshot => snapshot.find? identity).map Player.unevaluated =
        (previous'.bind fun snapshot => snapshot.find? identity).map Player.unevaluated)
    (entry : AcceptedRecord R) : enlist previous entry = enlist previous' entry := by
  have hObserve : ∀ (known : Option (Player R)) unum record,
      observeIdentity known unum record =
        observeIdentity (known.map Player.unevaluated) unum record := by
    intro known unum record
    cases known <;> rfl
  unfold enlist
  cases entry.unum with
  | none => rfl
  | some unum =>
      dsimp only
      rw [hObserve, hFind, ← hObserve]

end Tracking

namespace Observer

variable (observer : Observer R) (observation : CycleObservation R)
  {previous previous' : Option (Snapshot R)}

/-- Two first cycles, or two cycles after coherent snapshots with the same ball and the same
players. -/
inductive SamePast : Option (Snapshot R) → Option (Snapshot R) → Prop
  | none : SamePast none none
  | some {one other : Snapshot R} (hOne : one.IsCoherent) (hOther : other.IsCoherent)
      (hBall : one.ball = other.ball) (hPlayers : SamePlayers one.players other.players) :
      SamePast (some one) (some other)

/-- A past is the same as itself, if what was published is coherent. -/
theorem SamePast.refl {previous : Option (Snapshot R)}
    (hPrevious : ∀ snapshot, previous = Option.some snapshot → snapshot.IsCoherent) :
    SamePast previous previous := by
  cases previous with
  | none => exact SamePast.none
  | some snapshot =>
      have hCoherent := hPrevious snapshot rfl
      exact SamePast.some hCoherent hCoherent rfl (SamePlayers.refl _)

theorem SamePast.coherent {previous previous' : Option (Snapshot R)}
    (hPast : SamePast previous previous') :
    (∀ snapshot, previous = Option.some snapshot → snapshot.IsCoherent) ∧
      ∀ snapshot, previous' = Option.some snapshot → snapshot.IsCoherent := by
  cases hPast with
  | none =>
      constructor
      · intro snapshot hNone
        contradiction
      · intro snapshot hNone
        contradiction
  | some hOne hOther hBall hPlayers =>
      constructor
      · rintro snapshot ⟨⟩
        exact hOne
      · rintro snapshot ⟨⟩
        exact hOther

theorem tracked_perm (hPast : SamePast previous previous') :
    (observer.tracked observation previous).Perm (observer.tracked observation previous') := by
  unfold tracked
  rw [Tracking.players_eq, Tracking.players_eq]
  cases hPast with
  | none => exact List.Perm.refl _
  | some hOne hOther hBall hPlayers =>
      have hFind := Snapshot.map_find?_eq_of_samePlayers hOne hOther hPlayers
      rw [List.map_congr_left fun entry _ => Tracking.enlist_congr (some _) (some _) hFind _]
      refine List.Perm.append_left _ ?_
      have hRolling := hPlayers.filter (Tracking.rollsOn observer.config.maxUnseenCycles
        ((PlayerObservation.sift [] observation.players).1.filterMap AcceptedRecord.identity?))
        fun _ => rfl
      exact hRolling.map_perm fun _ => rfl

theorem ball_build_eq (hPast : SamePast previous previous') (deadline deadline' : Deadline) :
    (observer.build observation previous deadline).ball =
      (observer.build observation previous' deadline').ball := by
  have hSame : previous.map Snapshot.ball = previous'.map Snapshot.ball := by
    cases hPast with
    | none => rfl
    | some hOne hOther hBall hPlayers => exact congrArg some hBall
  have hOne := observer.build_ball observation previous deadline
    ⟨previous.map Snapshot.ball, none⟩ rfl
  have hOther := observer.build_ball observation previous' deadline'
    ⟨previous.map Snapshot.ball, none⟩ hSame
  exact hOne.trans hOther.symm

variable {observer} in
/-- Builds that track the same players have the same players, whatever the deadlines are. -/
theorem samePlayers_of_tracked_perm {observation observation' : CycleObservation R}
    (hTracked : (observer.tracked observation previous).Perm
      (observer.tracked observation' previous')) (deadline deadline' : Deadline) :
    SamePlayers (observer.build observation previous deadline).players
      (observer.build observation' previous' deadline').players := by
  have hPlain := observer.map_build_players_perm observation previous deadline
    (IdentityTrack.unevaluated_evaluate observer)
  have hPlain' := observer.map_build_players_perm observation' previous' deadline'
    (IdentityTrack.unevaluated_evaluate observer)
  exact (hPlain.trans (hTracked.map Player.unevaluated)).trans hPlain'.symm

/-- Deadlines change neither which players a snapshot has nor what is known of them. -/
theorem samePlayers_build (hPast : SamePast previous previous') (deadline deadline' : Deadline) :
    SamePlayers (observer.build observation previous deadline).players
      (observer.build observation previous' deadline').players :=
  samePlayers_of_tracked_perm (observer.tracked_perm observation hPast) deadline deadline'

end Observer

end SoccerWorld
