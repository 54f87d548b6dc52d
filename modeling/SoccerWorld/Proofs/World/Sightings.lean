import SoccerWorld.Proofs.World.Conservation
import SoccerWorld.Proofs.World.IdentityTrack

/-!
# Which players were seen in a cycle

A player with a known number was seen in a cycle exactly if the observation has an accepted record
of it.  The age `ages.seen` of a published player says so (`Observer.seen_eq_zero_iff`): it is zero
after a record, and at least one after a cycle without a record.
-/

namespace SoccerWorld

variable {R : Type} [Scalar R]

theorem Word.succ_ne_zero (n : UInt32) : Word.succ n ≠ 0 := by
  intro hZero
  have hNumber := Word.toNat_succ n
  rw [hZero] at hNumber
  have hNone : (0 : UInt32).toNat = 0 := rfl
  omega

namespace PlayerObservation

/-- The first record that names a player is the accepted one. -/
theorem firstNaming_eq_some_iff {identity : Identity} {records : List (PlayerObservation R)}
    {record : PlayerObservation R} :
    firstNaming identity records = some record ↔
      record ∈ acceptedRecords records ∧ record.identity? = some identity := by
  have hKept := filter_identity_sift identity [] records
  rw [if_neg List.not_mem_nil] at hKept
  have hNamed : ∀ entry : AcceptedRecord R, entry ∈ (sift [] records).1 →
      (entry.record.identity? = some identity ↔
        firstNaming identity records = some entry.record) := by
    intro entry hEntry
    have hFilter : entry ∈ (sift [] records).1.filter
        (fun entry => entry.identity? = some identity) ↔
          entry.record.identity? = some identity := by
      rw [List.mem_filter, decide_eq_true_eq, identity_of_mem_sift [] records entry hEntry]
      exact and_iff_right hEntry
    rw [← hFilter, hKept, Option.mem_toList, Option.map_eq_some_iff]
    constructor
    · rintro ⟨record, hFirst, rfl⟩
      exact hFirst
    · intro hFirst
      refine ⟨entry.record, hFirst, ?_⟩
      -- An entry is its record together with the number of that record.
      have hUnum := unum_of_mem_sift [] records entry hEntry
      have hNames := (names_eq_true_iff.mp (List.find?_some hFirst)).2
      obtain ⟨unum, hNumber, rfl⟩ := Option.map_eq_some_iff.mp hNames
      rw [hNumber] at hUnum
      show AcceptedRecord.mk (some unum) entry.record = entry
      rw [← hUnum]
  rw [← map_record_sift, List.mem_map]
  constructor
  · intro hFirst
    have hMem : AcceptedRecord.mk (some identity.unum) record ∈
        (sift [] records).1.filter fun entry => entry.identity? = some identity := by
      rw [hKept, hFirst]
      exact List.mem_singleton_self _
    have hEntry := List.mem_of_mem_filter hMem
    exact ⟨⟨_, hEntry, rfl⟩, (hNamed _ hEntry).mpr hFirst⟩
  · rintro ⟨⟨entry, hEntry, rfl⟩, hIdentity⟩
    exact (hNamed entry hEntry).mp hIdentity

end PlayerObservation

/-- The observation has an accepted record of the player. -/
def CycleObservation.Sees (observation : CycleObservation R) (identity : Identity) : Prop :=
  ∃ record ∈ PlayerObservation.acceptedRecords observation.players,
    record.identity? = some identity

theorem CycleObservation.sees_iff (observation : CycleObservation R) (identity : Identity) :
    observation.Sees identity ↔
      (PlayerObservation.firstNaming identity observation.players).isSome = true := by
  rw [Option.isSome_iff_exists]
  exact exists_congr fun record => PlayerObservation.firstNaming_eq_some_iff.symm

namespace IdentityTrack

variable (observer : Observer R) (identity : Identity) (track : IdentityTrack R)

/-- A record makes a player young, whatever was known of it. -/
theorem exists_nextPlayer_of_record (record : PlayerObservation R) :
    ∃ player, track.nextPlayer observer identity (some record) = some player ∧
      player.ages.seen = 0 ∧ player.ages.pos = 0 := by
  unfold nextPlayer
  cases track.player with
  | none => exact ⟨_, rfl, rfl, rfl⟩
  | some player => exact ⟨_, rfl, rfl, rfl⟩

/-- Without a record only a known player is left, one cycle older and not too old. -/
theorem nextPlayer_none_eq_some_iff (player : Player R) :
    track.nextPlayer observer identity none = some player ↔
      ∃ old, track.player = some old ∧
        Word.succ old.ages.seen ≤ observer.config.maxUnseenCycles ∧
        player = old.carry (observer.types.get old.typeId) := by
  unfold nextPlayer
  cases track.player with
  | none => simp
  | some old =>
      by_cases hYoung : Word.succ old.ages.seen ≤ observer.config.maxUnseenCycles
      · simp [hYoung, eq_comm]
      · simp [hYoung]

end IdentityTrack

namespace Observer

variable {previous : Option (Snapshot R)}

/-- A player of a new snapshot is the next player of its own track, evaluated. -/
theorem exists_nextPlayer_of_mem_build (observer : Observer R) (observation : CycleObservation R)
    (deadline : Deadline)
    (hPrevious : ∀ snapshot, previous = some snapshot → snapshot.IsCoherent)
    {player : Player R} (hPlayer : player ∈ (observer.build observation previous deadline).players)
    {identity : Identity} (hIdentity : player.identity? = some identity) :
    ∃ next inTime trajectory,
      (⟨previous.map Snapshot.ball, previous.bind fun snapshot => snapshot.find? identity⟩ :
        IdentityTrack R).nextPlayer observer identity
          (PlayerObservation.firstNaming identity observation.players) = some next ∧
      player = observer.evaluate inTime trajectory next := by
  obtain ⟨place, hRecords⟩ := observer.recordsOf_build observation deadline hPrevious identity
    ⟨previous.map Snapshot.ball, previous.bind fun snapshot => snapshot.find? identity⟩ rfl rfl
  have hMem : player ∈
      (observer.build observation previous deadline).recordsOf identity :=
    List.mem_filter.mpr ⟨hPlayer, decide_eq_true hIdentity⟩
  rw [hRecords, Option.mem_toList] at hMem
  obtain ⟨next, hNext, rfl⟩ := Option.map_eq_some_iff.mp hMem
  exact ⟨next, _, _, hNext, rfl⟩

/-- A published player has age zero exactly if the observation sees it. -/
theorem seen_eq_zero_iff (observer : Observer R) (observation : CycleObservation R)
    (deadline : Deadline)
    (hPrevious : ∀ snapshot, previous = some snapshot → snapshot.IsCoherent)
    {player : Player R} (hPlayer : player ∈ (observer.build observation previous deadline).players)
    {identity : Identity} (hIdentity : player.identity? = some identity) :
    player.ages.seen = 0 ↔ observation.Sees identity := by
  obtain ⟨next, inTime, trajectory, hNext, rfl⟩ :=
    observer.exists_nextPlayer_of_mem_build observation deadline hPrevious hPlayer hIdentity
  rw [evaluate_ages, CycleObservation.sees_iff]
  cases hFirst : PlayerObservation.firstNaming identity observation.players with
  | some record =>
      rw [hFirst] at hNext
      obtain ⟨young, hYoung, hSeen, -⟩ :=
        IdentityTrack.exists_nextPlayer_of_record observer identity
          ⟨previous.map Snapshot.ball, previous.bind fun snapshot => snapshot.find? identity⟩ record
      obtain rfl := Option.some.inj (hYoung.symm.trans hNext)
      exact ⟨fun _ => rfl, fun _ => hSeen⟩
  | none =>
      rw [hFirst, IdentityTrack.nextPlayer_none_eq_some_iff] at hNext
      obtain ⟨old, -, -, rfl⟩ := hNext
      constructor
      · intro hZero
        exact absurd hZero (Word.succ_ne_zero old.ages.seen)
      · intro hNone
        contradiction

end Observer

end SoccerWorld
