import SoccerWorld.Proofs.World.Independence
import SoccerWorld.Proofs.World.Sightings

/-!
# How long a player is remembered

A player that is no longer seen rolls on, and its ages count the cycles.  They count up to the
largest word and stay there.  A player is dropped in the cycle in which its age would exceed the
limit.

`IdentityTrack.IsAged` says what this comes to in terms of the observations alone: the player is
present exactly if its last record is recent enough, and its ages tell how long ago that record was.
Every cycle keeps it (`IdentityTrack.isAged_nextPlayer`), so it holds after every run
(`WorldModel.hasLifetimes_run`).
-/

namespace SoccerWorld

variable {R : Type} [Scalar R]

/-- The observations since the last reset, the latest one first. -/
def WorldEvent.recent (events : List (WorldEvent R)) : List (CycleObservation R) :=
  events.foldl (fun recent event =>
    match event with
    | .update observation _ => observation :: recent
    | .reset => []) []

namespace CycleObservation

/-- The observation `age` cycles ago has an accepted record of the player. -/
def SeesAgo (recent : List (CycleObservation R)) (identity : Identity) (age : Nat) : Prop :=
  ∃ observation, recent[age]? = some observation ∧ observation.Sees identity

/-- The last accepted record of the player was `age` cycles ago. -/
def SeesLastAgo (recent : List (CycleObservation R)) (identity : Identity) (age : Nat) : Prop :=
  SeesAgo recent identity age ∧ ∀ later < age, ¬ SeesAgo recent identity later

variable (recent : List (CycleObservation R)) {identity : Identity}

theorem seesAgo_cons_zero_iff (observation : CycleObservation R) :
    SeesAgo (observation :: recent) identity 0 ↔ observation.Sees identity := by
  simp [SeesAgo]

theorem seesAgo_cons_succ_iff (observation : CycleObservation R) (age : Nat) :
    SeesAgo (observation :: recent) identity (age + 1) ↔ SeesAgo recent identity age := by
  simp [SeesAgo]

variable {recent} in
/-- Where a player was seen at all, one of the records was the last. -/
theorem exists_seesLastAgo_le {age : Nat} (hSeen : SeesAgo recent identity age) :
    ∃ last ≤ age, SeesLastAgo recent identity last := by
  induction age using Nat.strongRecOn with
  | ind age ih =>
      by_cases hLater : ∃ later < age, SeesAgo recent identity later
      · obtain ⟨later, hLess, hLaterSeen⟩ := hLater
        obtain ⟨last, hLast, hSeesLast⟩ := ih later hLess hLaterSeen
        exact ⟨last, by omega, hSeesLast⟩
      · refine ⟨age, Nat.le_refl age, hSeen, ?_⟩
        intro later hLess hLaterSeen
        exact hLater ⟨later, hLess, hLaterSeen⟩

/-- After a cycle with a record the last record is that one. -/
theorem seesLastAgo_cons_of_sees {observation : CycleObservation R}
    (hSees : observation.Sees identity) (age : Nat) :
    SeesLastAgo (observation :: recent) identity age ↔ age = 0 := by
  have hNow := (seesAgo_cons_zero_iff recent observation).mpr hSees
  constructor
  · rintro ⟨-, hLast⟩
    by_contra hAge
    exact hLast 0 (by omega) hNow
  · rintro rfl
    exact ⟨hNow, fun later hLess => absurd hLess (Nat.not_lt_zero later)⟩

/-- A cycle without a record makes the last record one cycle older. -/
theorem seesLastAgo_cons_of_not_sees {observation : CycleObservation R}
    (hSees : ¬ observation.Sees identity) (age : Nat) :
    SeesLastAgo (observation :: recent) identity age ↔
      ∃ before, age = before + 1 ∧ SeesLastAgo recent identity before := by
  cases age with
  | zero =>
      constructor
      · rintro ⟨hNow, -⟩
        exact absurd ((seesAgo_cons_zero_iff recent observation).mp hNow) hSees
      · rintro ⟨before, hZero, -⟩
        omega
  | succ before =>
      constructor
      · rintro ⟨hSeen, hLast⟩
        refine ⟨before, rfl, (seesAgo_cons_succ_iff recent observation before).mp hSeen, ?_⟩
        intro later hLess hLater
        exact hLast (later + 1) (by omega)
          ((seesAgo_cons_succ_iff recent observation later).mpr hLater)
      · rintro ⟨same, hSame, hSeen, hLast⟩
        obtain rfl : before = same := by omega
        refine ⟨(seesAgo_cons_succ_iff recent observation before).mpr hSeen, ?_⟩
        intro later hLess hLater
        cases later with
        | zero => exact hSees ((seesAgo_cons_zero_iff recent observation).mp hLater)
        | succ later =>
            exact hLast later (by omega)
              ((seesAgo_cons_succ_iff recent observation later).mp hLater)

end CycleObservation

/-! ## One player -/

namespace IdentityTrack

open CycleObservation

/-- The player is known exactly if its last record is recent enough, and its ages say how long ago
that was, as far as a word can count. -/
structure IsAged (maxUnseen : UInt32) (recent : List (CycleObservation R)) (identity : Identity)
    (player : Option (Player R)) : Prop where
  isSome_iff : player.isSome = true ↔
    ∃ age, SeesLastAgo recent identity age ∧ min age 4294967295 ≤ maxUnseen.toNat
  ages_eq : ∀ known age, player = some known → SeesLastAgo recent identity age →
    known.ages.seen.toNat = min age 4294967295 ∧ known.ages.pos.toNat = min age 4294967295

theorem isAged_nil (maxUnseen : UInt32) (identity : Identity) :
    IsAged maxUnseen ([] : List (CycleObservation R)) identity none := by
  constructor
  · constructor
    · intro hSome
      contradiction
    · rintro ⟨age, ⟨⟨observation, hNone, -⟩, -⟩, -⟩
      contradiction
  · intro known age hNone
    contradiction

/-- What does not change ages does not matter. -/
theorem isAged_map_iff {maxUnseen : UInt32} {recent : List (CycleObservation R)}
    {identity : Identity} {player : Option (Player R)} {f : Player R → Player R}
    (hf : ∀ player, (f player).ages = player.ages) :
    IsAged maxUnseen recent identity (player.map f) ↔
      IsAged maxUnseen recent identity player := by
  constructor
  · intro hAged
    refine ⟨by rw [← hAged.isSome_iff, Option.isSome_map], ?_⟩
    intro known age hKnown hLast
    have hAges := hAged.ages_eq (f known) age (by rw [hKnown, Option.map_some]) hLast
    rwa [hf] at hAges
  · intro hAged
    refine ⟨by rw [Option.isSome_map, hAged.isSome_iff], ?_⟩
    intro known age hKnown hLast
    obtain ⟨old, hOld, rfl⟩ := Option.map_eq_some_iff.mp hKnown
    rw [hf]
    exact hAged.ages_eq old age hOld hLast

variable (observer : Observer R) {identity : Identity} {track : IdentityTrack R}
  {recent : List (CycleObservation R)}

/-- One cycle, with or without a record of the player, keeps its ages right. -/
theorem isAged_nextPlayer
    (hAged : IsAged observer.config.maxUnseenCycles recent identity track.player)
    (observation : CycleObservation R) :
    IsAged observer.config.maxUnseenCycles (observation :: recent) identity
      (track.nextPlayer observer identity
        (PlayerObservation.firstNaming identity observation.players)) := by
  have hSees := observation.sees_iff identity
  cases hFirst : PlayerObservation.firstNaming identity observation.players with
  | some record =>
      rw [hFirst, Option.isSome_some, eq_self, iff_true] at hSees
      have hLast := seesLastAgo_cons_of_sees recent hSees
      obtain ⟨young, hYoung, hSeen, hPos⟩ :=
        exists_nextPlayer_of_record observer identity track record
      rw [hYoung]
      constructor
      · rw [Option.isSome_some, eq_self, true_iff]
        exact ⟨0, (hLast 0).mpr rfl, Nat.zero_le _⟩
      · rintro known age ⟨⟩ hAge
        obtain rfl := (hLast age).mp hAge
        rw [hSeen, hPos]
        exact ⟨rfl, rfl⟩
  | none =>
      rw [hFirst, Option.isSome_none, Bool.false_eq_true, iff_false] at hSees
      have hLast := seesLastAgo_cons_of_not_sees recent hSees
      constructor
      · rw [Option.isSome_iff_exists]
        constructor
        · rintro ⟨next, hNext⟩
          obtain ⟨old, hOld, hYoung, -⟩ :=
            (nextPlayer_none_eq_some_iff observer identity track next).mp hNext
          obtain ⟨age, hAge, -⟩ := hAged.isSome_iff.mp (by rw [hOld]; rfl)
          have hSeen := (hAged.ages_eq old age hOld hAge).1
          have hWord := Word.toNat_succ old.ages.seen
          have hLimit := UInt32.le_iff_toNat_le.mp hYoung
          exact ⟨age + 1, (hLast (age + 1)).mpr ⟨age, rfl, hAge⟩, by omega⟩
        · rintro ⟨age, hAge, hLimit⟩
          obtain ⟨before, rfl, hBefore⟩ := (hLast age).mp hAge
          obtain ⟨old, hOld⟩ := Option.isSome_iff_exists.mp
            (hAged.isSome_iff.mpr ⟨before, hBefore, by omega⟩)
          have hSeen := (hAged.ages_eq old before hOld hBefore).1
          have hWord := Word.toNat_succ old.ages.seen
          have hYoung : Word.succ old.ages.seen ≤ observer.config.maxUnseenCycles := by
            rw [UInt32.le_iff_toNat_le]
            omega
          exact ⟨_, (nextPlayer_none_eq_some_iff observer identity track _).mpr
            ⟨old, hOld, hYoung, rfl⟩⟩
      · intro next age hNext hAge
        obtain ⟨old, hOld, -, rfl⟩ :=
          (nextPlayer_none_eq_some_iff observer identity track next).mp hNext
        obtain ⟨before, rfl, hBefore⟩ := (hLast age).mp hAge
        obtain ⟨hSeen, hPos⟩ := hAged.ages_eq old before hOld hBefore
        show (Word.succ old.ages.seen).toNat = _ ∧ (Word.succ old.ages.pos).toNat = _
        have hSeenWord := Word.toNat_succ old.ages.seen
        have hPosWord := Word.toNat_succ old.ages.pos
        omega

/-- After every run the ages of a tracked player are right. -/
theorem isAged_run (identity : Identity) (events : List (WorldEvent R)) :
    IsAged observer.config.maxUnseenCycles (WorldEvent.recent events) identity
      (run observer identity (events.map (WorldEvent.sighting identity))).player := by
  -- Both sides are folds from the first event on, so the induction is on the last one.
  induction events using List.reverseRecOn with
  | nil => exact isAged_nil _ identity
  | append_singleton events event ih =>
      unfold WorldEvent.recent run at ih ⊢
      rw [List.map_append, List.foldl_append, List.foldl_append]
      cases event with
      | reset => exact isAged_nil _ identity
      | update observation deadline =>
          refine (isAged_map_iff fun player => ?_).mpr (isAged_nextPlayer observer ih observation)
          exact observer.evaluate_ages _ _ player

end IdentityTrack

/-! ## All players of a snapshot -/

open CycleObservation

/-- Which players a snapshot remembers after some events, and how old they are. -/
structure Snapshot.HasLifetimes (maxUnseen : UInt32) (events : List (WorldEvent R))
    (snapshot : Snapshot R) : Prop where
  isSome_iff : maxUnseen < 4294967295 → ∀ identity, (snapshot.find? identity).isSome = true ↔
    ∃ age ≤ maxUnseen.toNat, SeesAgo (WorldEvent.recent events) identity age
  ages_eq : maxUnseen < 4294967295 → ∀ identity player, snapshot.find? identity = some player →
    ∃ age, SeesLastAgo (WorldEvent.recent events) identity age ∧
      player.ages.seen.toNat = age ∧ player.ages.pos.toNat = age
  /-- Without a limit nobody is dropped. -/
  isSome_iff_of_unlimited : maxUnseen = 4294967295 → ∀ identity,
    (snapshot.find? identity).isSome = true ↔
      ∃ age, SeesAgo (WorldEvent.recent events) identity age
  ages_eq_of_unlimited : maxUnseen = 4294967295 → ∀ identity player,
    snapshot.find? identity = some player →
      ∃ age, SeesLastAgo (WorldEvent.recent events) identity age ∧
        player.ages.seen.toNat = min age 4294967295 ∧ player.ages.pos.toNat = min age 4294967295
  seen_le : ∀ player ∈ snapshot.players, player.ages.seen ≤ maxUnseen

namespace Observer

variable (observer : Observer R) (observation : CycleObservation R) (deadline : Deadline)
  (previous : Option (Snapshot R))

/-- No published player is older than the limit. -/
theorem seen_le_of_mem_build :
    ∀ player ∈ (observer.build observation previous deadline).players,
      player.ages.seen ≤ observer.config.maxUnseenCycles := by
  intro player hPlayer
  obtain ⟨tracked, hTracked, place, rfl⟩ := exists_tracked_of_mem_build hPlayer
  rw [evaluate_ages]
  unfold Observer.tracked at hTracked
  rw [Tracking.players_eq, List.mem_append, List.mem_map, List.mem_map] at hTracked
  rcases hTracked with ⟨entry, -, rfl⟩ | ⟨old, hOld, rfl⟩
  · rw [(Tracking.enlist_position_seen previous _).2]
    exact UInt32.zero_le
  · obtain ⟨-, -, -, hRolls⟩ := Tracking.rollsOn_of_mem_rolling hOld
    exact (Tracking.rollsOn_eq_true_iff.mp hRolls).2

/-- A record of a player that the snapshot before does not hold begins a new one. -/
theorem find?_build_of_forgotten (hSide : observer.perspective.ourSide.isAssigned = true)
    (hPrevious : ∀ snapshot, previous = some snapshot → snapshot.IsCoherent) {identity : Identity}
    (hForgotten : (previous.bind fun snapshot => snapshot.find? identity) = none)
    {record : PlayerObservation R}
    (hRecord : record ∈ PlayerObservation.acceptedRecords observation.players)
    (hIdentity : record.identity? = some identity) :
    ((observer.build observation previous deadline).find? identity).map Player.unevaluated =
      some (Player.fresh (some identity.unum) (record.turn observer.perspective)) := by
  have hBuild := observer.isCoherent_build observation deadline hSide hPrevious
  have hFirst := PlayerObservation.firstNaming_eq_some_iff.mpr ⟨hRecord, hIdentity⟩
  obtain ⟨place, hRecords⟩ := observer.recordsOf_build observation deadline hPrevious identity
    ⟨previous.map Snapshot.ball, previous.bind fun snapshot => snapshot.find? identity⟩ rfl rfl
  rw [hForgotten] at hRecords
  rw [hBuild.find?_eq_of_recordsOf_eq hRecords]
  unfold IdentityTrack.step
  dsimp only
  rw [hFirst, IdentityTrack.map_unevaluated_evaluate]
  rfl

end Observer

namespace WorldModel

/-- In a snapshot of a run every identity is as old as the observations say. -/
theorem isAged_find?_run (observer : Observer R)
    (hSide : observer.perspective.ourSide.isAssigned = true) (events : List (WorldEvent R))
    (snapshot : Snapshot R) (hCurrent : ((start observer).run events).current = some snapshot)
    (identity : Identity) :
    IdentityTrack.IsAged observer.config.maxUnseenCycles (WorldEvent.recent events) identity
      (snapshot.find? identity) := by
  have hAged := IdentityTrack.isAged_run observer identity events
  have hFollows := (follows_run observer hSide identity events).player
  -- Ages are not reach steps, so it is enough that the player is that of the track but for those.
  have hAges : ∀ player : Player R, player.unevaluated.ages = player.ages := fun _ => rfl
  rw [hCurrent, Option.bind_some] at hFollows
  rwa [← IdentityTrack.isAged_map_iff hAges, hFollows,
    IdentityTrack.isAged_map_iff hAges] at hAged

/-- After every run players are remembered for as long as the limit says, with their ages right. -/
theorem hasLifetimes_of_current_run (observer : Observer R)
    (hSide : observer.perspective.ourSide.isAssigned = true) (events : List (WorldEvent R))
    (snapshot : Snapshot R) (hCurrent : ((start observer).run events).current = some snapshot) :
    snapshot.HasLifetimes observer.config.maxUnseenCycles events := by
  have hAged := isAged_find?_run observer hSide events snapshot hCurrent
  have hKnown : ∀ identity player, snapshot.find? identity = some player →
      ∃ age, SeesLastAgo (WorldEvent.recent events) identity age ∧
        min age 4294967295 ≤ observer.config.maxUnseenCycles.toNat ∧
        player.ages.seen.toNat = min age 4294967295 ∧
        player.ages.pos.toNat = min age 4294967295 := by
    intro identity player hFind
    obtain ⟨age, hAge, hLimit⟩ := (hAged identity).isSome_iff.mp (by rw [hFind]; rfl)
    exact ⟨age, hAge, hLimit, (hAged identity).ages_eq player age hFind hAge⟩
  constructor
  · intro hLimited identity
    have hWord : observer.config.maxUnseenCycles.toNat < 4294967295 :=
      UInt32.lt_iff_toNat_lt.mp hLimited
    rw [(hAged identity).isSome_iff]
    constructor
    · rintro ⟨age, hAge, hLimit⟩
      exact ⟨age, by omega, hAge.1⟩
    · rintro ⟨age, hLimit, hAge⟩
      obtain ⟨last, hLast, hSeesLast⟩ := exists_seesLastAgo_le hAge
      exact ⟨last, hSeesLast, by omega⟩
  · intro hLimited identity player hFind
    have hWord : observer.config.maxUnseenCycles.toNat < 4294967295 :=
      UInt32.lt_iff_toNat_lt.mp hLimited
    obtain ⟨age, hAge, hLimit, hSeen, hPos⟩ := hKnown identity player hFind
    exact ⟨age, hAge, by omega, by omega⟩
  · intro hUnlimited identity
    rw [(hAged identity).isSome_iff, hUnlimited]
    constructor
    · rintro ⟨age, hAge, -⟩
      exact ⟨age, hAge.1⟩
    · rintro ⟨age, hAge⟩
      obtain ⟨last, -, hSeesLast⟩ := exists_seesLastAgo_le hAge
      exact ⟨last, hSeesLast, Nat.min_le_right last 4294967295⟩
  · intro _ identity player hFind
    obtain ⟨age, hAge, -, hSeen, hPos⟩ := hKnown identity player hFind
    exact ⟨age, hAge, hSeen, hPos⟩
  · refine current_run_induction
      (P := fun snapshot => ∀ player ∈ snapshot.players,
        player.ages.seen ≤ observer.config.maxUnseenCycles)
      (start observer) ?_ ?_ events snapshot hCurrent
    · intro observation previous deadline _
      exact observer.seen_le_of_mem_build observation deadline previous
    · intro snapshot hNone
      contradiction

/-- A player that a run does not remember begins anew with its next record. -/
theorem find?_run_of_forgotten (observer : Observer R)
    (hSide : observer.perspective.ourSide.isAssigned = true) (events : List (WorldEvent R))
    {identity : Identity}
    (hForgotten : (((start observer).run events).current.bind fun snapshot =>
      snapshot.find? identity) = none)
    (observation : CycleObservation R) (deadline : Deadline) {record : PlayerObservation R}
    (hRecord : record ∈ PlayerObservation.acceptedRecords observation.players)
    (hIdentity : record.identity? = some identity) :
    ∃ next player,
      ((start observer).run (events ++ [.update observation deadline])).current = some next ∧
        next.find? identity = some player ∧
        player.unevaluated =
          Player.fresh (some identity.unum) (record.turn observer.perspective) := by
  have hCoherent : ∀ snapshot, ((start observer).run events).current = some snapshot →
      snapshot.IsCoherent := fun snapshot hCurrent =>
    (isReachable_of_current_run observer hSide events snapshot hCurrent).isCoherent
  have hFresh := observer.find?_build_of_forgotten observation deadline
    ((start observer).run events).current hSide hCoherent hForgotten hRecord hIdentity
  obtain ⟨player, hFind, hPlayer⟩ := Option.map_eq_some_iff.mp hFresh
  refine ⟨_, player, ?_, hFind, hPlayer⟩
  have hNext : ((start observer).run (events ++ [.update observation deadline])).current =
      some (((start observer).run events).observer.build observation
        ((start observer).run events).current deadline) := by
    rw [run_append]
    rfl
  rw [hNext, observer_run]
  rfl

/-- After every run players are remembered for as long as the limit says, with their ages right, and
a forgotten player that is seen again begins anew. -/
theorem lifetimes_run (ourSide : Side) (hSide : ourSide.isAssigned = true)
    (config : WorldConfig R) (selfUnum : Option Nat) (events : List (WorldEvent R))
    (snapshot : Snapshot R)
    (hCurrent :
      ((start (Observer.create ourSide config selfUnum)).run events).current = some snapshot) :
    snapshot.HasLifetimes config.maxUnseenCycles events ∧
      ∀ identity, snapshot.find? identity = none →
        ∀ (observation : CycleObservation R) (deadline : Deadline),
          ∀ record ∈ PlayerObservation.acceptedRecords observation.players,
            record.identity? = some identity →
              ∃ next player,
                ((start (Observer.create ourSide config selfUnum)).run
                  (events ++ [.update observation deadline])).current = some next ∧
                next.find? identity = some player ∧
                player.unevaluated =
                  Player.fresh (some identity.unum) (record.turn ⟨ourSide⟩) := by
  refine ⟨hasLifetimes_of_current_run _ hSide events snapshot hCurrent, ?_⟩
  intro identity hForgotten observation deadline record hRecord hIdentity
  refine find?_run_of_forgotten (Observer.create ourSide config selfUnum) hSide events ?_
    observation deadline hRecord hIdentity
  rw [hCurrent]
  exact hForgotten

/-- Our number seven is seen, then missed for two cycles. -/
def eventsWithGap : List (WorldEvent Float) :=
  [.update
      { cycle := 1
        players := [{ side := Side.left, unum := some 7, position := Vec2.zero }] } .ahead,
    .update { cycle := 2 } .ahead, .update { cycle := 3 } .passed]

theorem lifetimes_run_eventsWithGap :
    Side.left.isAssigned = true ∧
      ∃ snapshot : Snapshot Float,
        ((start (Observer.create Side.left
          { WorldConfig.standard with maxUnseenCycles := 1 } none)).run
            eventsWithGap).current = some snapshot ∧
          snapshot.HasLifetimes 1 eventsWithGap :=
  ⟨rfl, _, rfl, (lifetimes_run Side.left rfl { WorldConfig.standard with maxUnseenCycles := 1 }
    none eventsWithGap _ rfl).1⟩

end WorldModel

end SoccerWorld
