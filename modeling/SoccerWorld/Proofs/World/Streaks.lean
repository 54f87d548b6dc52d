import SoccerWorld.Proofs.World.LastTouch
import SoccerWorld.Proofs.World.Life

/-!
# Tackles and fouls that last

A flag that is up in one record after the other makes a streak.  The streak lasts through cycles in
which the player is not seen, and ends with the first record that has the flag down.
`PlayerObservation.streakLength` reads the length of the current streak off the records of a life.

The counters of a tracked player are the lengths of its current streaks
(`Player.Lives.hasStreaks`).  One tackle is listed as one touch: between two touches by tackles of
one player there is a record of that player without a tackle (`WorldModel.hasStreaks_run`).
-/

namespace SoccerWorld

variable {R : Type} [Scalar R]

/-- A counter of cycles is at one only where its flag came up in this cycle. -/
theorem eq_one_of_streak {count : UInt32} {up : Bool} (hOne : streak count up = 1) :
    up = true ∧ count = 0 := by
  unfold streak at hOne
  split at hOne
  · next hUp =>
      refine ⟨hUp, UInt32.toNat.inj ?_⟩
      have hSucc := Word.toNat_succ count
      have hFirst : (1 : UInt32).toNat = 1 := rfl
      have hNone : (0 : UInt32).toNat = 0 := rfl
      rw [hOne] at hSucc
      omega
  · contradiction

namespace PlayerObservation

/-- The records among some reports with the number of cycles since then, the latest first. -/
def dated (reports : List (Option (PlayerObservation R))) : List (PlayerObservation R × Nat) :=
  reports.zipIdx.filterMap fun entry => entry.1.map fun record => (record, entry.2)

/-- The latest records, as far back as all of them have the flag up. -/
def currentStreak (up : PlayerObservation R → Bool)
    (reports : List (Option (PlayerObservation R))) : List (PlayerObservation R × Nat) :=
  (dated reports).takeWhile fun entry => up entry.1

/-- Number of cycles from the first record of the current streak until now, both included; zero if
the last record has the flag down. -/
def streakLength (up : PlayerObservation R → Bool)
    (reports : List (Option (PlayerObservation R))) : Nat :=
  match (currentStreak up reports).getLast? with
  | some first => first.2 + 1
  | none => 0

/-- Cycles left of a freeze of `total` cycles that began with a streak of the given length. -/
def cyclesLeft (total : UInt32) (length : Nat) : Nat :=
  if length = 0 then 0 else total.toNat - length

/-- A dated record one cycle later. -/
def oneCycleLater (entry : PlayerObservation R × Nat) : PlayerObservation R × Nat :=
  (entry.1, entry.2 + 1)

theorem dated_cons (report : Option (PlayerObservation R))
    (reports : List (Option (PlayerObservation R))) :
    dated (report :: reports) =
      (report.map fun record => (record, 0)).toList ++ (dated reports).map oneCycleLater := by
  have hLater : dated (report :: reports) = (report.map fun record => (record, 0)).toList ++
      (reports.zipIdx 1).filterMap fun entry => entry.1.map fun record => (record, entry.2) := by
    rw [dated, List.zipIdx_cons, List.filterMap_cons]
    cases report <;> rfl
  rw [hLater, List.zipIdx_succ, List.filterMap_map, dated, List.map_filterMap]
  refine congrArg _ (List.filterMap_congr fun entry _ => ?_)
  rw [Option.map_map]
  rfl

variable (up : PlayerObservation R → Bool) (reports : List (Option (PlayerObservation R)))

theorem takeWhile_oneCycleLater :
    ((dated reports).map oneCycleLater).takeWhile (fun entry => up entry.1) =
      (currentStreak up reports).map oneCycleLater :=
  List.takeWhile_map ..

/-- A streak lasts through a cycle without a record, and none begins there. -/
theorem streakLength_cons_none :
    streakLength up (none :: reports) =
      if streakLength up reports = 0 then 0 else streakLength up reports + 1 := by
  have hStreak : currentStreak up (none :: reports) =
      (currentStreak up reports).map oneCycleLater := by
    rw [currentStreak, dated_cons]
    exact takeWhile_oneCycleLater up reports
  unfold streakLength
  rw [hStreak, List.getLast?_map]
  cases (currentStreak up reports).getLast? <;> rfl

/-- A record with the flag up begins or continues a streak, and one with the flag down ends it. -/
theorem streakLength_cons_some (record : PlayerObservation R) :
    streakLength up (some record :: reports) =
      if up record then streakLength up reports + 1 else 0 := by
  have hDated : dated (some record :: reports) =
      (record, 0) :: (dated reports).map oneCycleLater := dated_cons _ _
  unfold streakLength
  rw [currentStreak, hDated, List.takeWhile_cons, takeWhile_oneCycleLater]
  by_cases hUp : up record = true
  · rw [if_pos hUp, if_pos hUp, List.getLast?_cons, List.getLast?_map]
    cases (currentStreak up reports).getLast? <;> rfl
  · rw [if_neg hUp, if_neg hUp]
    rfl

variable {up} {reports}

/-- Where no streak lasts, the last record has the flag down. -/
theorem exists_last_of_streakLength_eq_zero (hRecord : ∃ record, some record ∈ reports)
    (hZero : streakLength up reports = 0) :
    ∃ later record earlier, reports = later ++ some record :: earlier ∧
      (∀ report ∈ later, report = none) ∧ up record = false := by
  induction reports with
  | nil =>
      obtain ⟨record, hNone⟩ := hRecord
      contradiction
  | cons report reports ih =>
      cases report with
      | some record =>
          refine ⟨[], record, reports, rfl, by simp, ?_⟩
          rw [streakLength_cons_some] at hZero
          by_contra hUp
          rw [Bool.not_eq_false] at hUp
          rw [if_pos hUp] at hZero
          omega
      | none =>
          rw [streakLength_cons_none] at hZero
          have hEarlier : streakLength up reports = 0 := by
            by_contra hLasts
            rw [if_neg hLasts] at hZero
            omega
          obtain ⟨record, hMem⟩ := hRecord
          have hMem := (List.mem_cons.mp hMem).resolve_left (Option.some_ne_none record)
          obtain ⟨later, last, earlier, rfl, hLater, hDown⟩ := ih ⟨record, hMem⟩ hEarlier
          refine ⟨none :: later, last, earlier, rfl, ?_, hDown⟩
          intro report hReport
          rcases List.mem_cons.mp hReport with rfl | hReport
          · rfl
          · exact hLater report hReport

/-! ## Counters of streaks -/

variable {count : UInt32} (hCount : count.toNat = min (streakLength up reports) 4294967295)

include hCount

theorem toNat_streak_cons_some (record : PlayerObservation R) :
    (streak count (up record)).toNat =
      min (streakLength up (some record :: reports)) 4294967295 := by
  rw [streakLength_cons_some, streak]
  split
  · have hSucc := Word.toNat_succ count
    omega
  · rfl

theorem toNat_streak_cons_none :
    (streak count (count ≠ 0)).toNat =
      min (streakLength up (none :: reports)) 4294967295 := by
  rw [streakLength_cons_none, streak]
  by_cases hZero : count = 0
  · subst hZero
    have hNone : (0 : UInt32).toNat = 0 := rfl
    rw [if_neg (by simp), if_pos (by omega)]
    rfl
  · have hNotZero : count.toNat ≠ 0 := fun hNone => hZero (UInt32.toNat.inj hNone)
    have hSucc := Word.toNat_succ count
    rw [if_pos (decide_eq_true hZero), if_neg (by omega)]
    omega

/-- What is left of a freeze follows from the length of the streak, although the counter stops at
the largest word. -/
theorem toNat_freezeLeft (total : UInt32) :
    (Player.freezeLeft total count).toNat = cyclesLeft total (streakLength up reports) := by
  unfold Player.freezeLeft cyclesLeft
  by_cases hZero : count = 0
  · subst hZero
    have hNone : (0 : UInt32).toNat = 0 := rfl
    rw [if_pos rfl, if_pos (by omega)]
    rfl
  · have hNotZero : count.toNat ≠ 0 := fun hNone => hZero (UInt32.toNat.inj hNone)
    have hTotal := total.toNat_lt
    rw [if_neg hZero, if_neg (by omega), Word.toNat_sub]
    omega

end PlayerObservation

namespace Player

open PlayerObservation

/-- The counters of a player are the lengths of its current streaks. -/
structure HasStreaks (reports : List (Option (PlayerObservation R))) (player : Player R) :
    Prop where
  tackleCycles_eq : player.tackleCycles.toNat =
    min (streakLength PlayerObservation.tackling reports) 4294967295
  chargedCycles_eq : player.chargedCycles.toNat =
    min (streakLength PlayerObservation.charged reports) 4294967295

variable {view : Perspective} {reports : List (Option (PlayerObservation R))} {player : Player R}

theorem hasStreaks_blank (side : Side) (unum : Option Unum) (position : Vec2 R) :
    HasStreaks [] (blank side unum position) :=
  ⟨rfl, rfl⟩

theorem HasStreaks.observe (hStreaks : HasStreaks reports player)
    (record : PlayerObservation R) :
    HasStreaks (some record :: reports) (player.observe (record.turn view)) :=
  ⟨toNat_streak_cons_some hStreaks.tackleCycles_eq record,
    toNat_streak_cons_some hStreaks.chargedCycles_eq record⟩

theorem HasStreaks.carry (hStreaks : HasStreaks reports player) (motion : Locomotion R) :
    HasStreaks (none :: reports) (player.carry motion) :=
  ⟨toNat_streak_cons_none hStreaks.tackleCycles_eq,
    toNat_streak_cons_none hStreaks.chargedCycles_eq⟩

theorem Lives.hasStreaks (hLives : player.Lives view reports) : player.HasStreaks reports := by
  induction hLives with
  | begins unum record => exact (hasStreaks_blank _ unum _).observe record
  | seen hPast record ih => exact ih.observe record
  | missed hPast motion ih => exact ih.carry motion
  | evaluated hPast step ih => exact { ih with }

/-- The freeze of a player ends when the longer of the two is over. -/
theorem HasStreaks.toNat_lockoutRemaining (hStreaks : HasStreaks reports player)
    (tackleCycles foulCycles : UInt32) :
    (player.lockoutRemaining tackleCycles foulCycles).toNat =
      max (cyclesLeft tackleCycles (streakLength PlayerObservation.tackling reports))
        (cyclesLeft foulCycles (streakLength PlayerObservation.charged reports)) := by
  rw [← toNat_freezeLeft hStreaks.tackleCycles_eq, ← toNat_freezeLeft hStreaks.chargedCycles_eq]
  exact UInt32.toNat_max ..

end Player

/-! ## Tackles as touches -/

namespace WorldEvent

/-- The event of a report, and the events since then. -/
theorem exists_event_of_reports {identity : Identity} {events : List (WorldEvent R)}
    {later earlier : List (Option (PlayerObservation R))} {report : Option (PlayerObservation R)}
    (hReports : reports identity events = later ++ report :: earlier) :
    ∃ first event last, events = first ++ event :: last ∧ event.record? identity = report ∧
      ∀ other ∈ last, other.record? identity ∈ later := by
  have hMap : events.map (record? identity) = earlier.reverse ++ report :: later.reverse := by
    rw [← List.reverse_reverse (events.map (record? identity)), ← reports, hReports]
    simp
  obtain ⟨first, rest, rfl, -, hRest⟩ := List.map_eq_append_iff.mp hMap
  obtain ⟨event, last, rfl, hEvent, hLast⟩ := List.map_eq_cons_iff.mp hRest
  refine ⟨first, event, last, rfl, hEvent, ?_⟩
  intro other hOther
  have hMem := List.mem_map_of_mem (f := record? identity) hOther
  rw [hLast, List.mem_reverse] at hMem
  exact hMem

/-- An event with a record of a player is an update with an accepted record of it. -/
theorem exists_update_of_record? {identity : Identity} {event : WorldEvent R}
    {record : PlayerObservation R} (hRecord : event.record? identity = some record) :
    ∃ observation deadline, event = .update observation deadline ∧
      record ∈ PlayerObservation.acceptedRecords observation.players ∧
      record.identity? = some identity := by
  cases event with
  | reset => contradiction
  | update observation deadline =>
      obtain ⟨hAccepted, hIdentity⟩ := PlayerObservation.firstNaming_eq_some_iff.mp hRecord
      exact ⟨observation, deadline, rfl, hAccepted, hIdentity⟩

end WorldEvent

namespace Observer

theorem evaluate_tackleCycles (observer : Observer R) (inTime : Bool)
    (trajectory : Trajectory R) (player : Player R) :
    (observer.evaluate inTime trajectory player).tackleCycles = player.tackleCycles :=
  observer.apply_evaluate inTime trajectory player fun _ _ => rfl

variable {observer : Observer R} {observation : CycleObservation R}
  {previous : Option (Snapshot R)} {deadline : Deadline}

/-- A touch by a tackle is one of a player that is seen tackling and was not tackling before. -/
theorem exists_record_of_tackle
    (hPrevious : ∀ snapshot, previous = some snapshot → snapshot.IsCoherent) {touch : Touch R}
    (hTouch : touch ∈ (observer.build observation previous deadline).attribution.candidates)
    (hKind : touch.kind = .tackle) :
    ∃ record before old,
      PlayerObservation.firstNaming ⟨touch.side, touch.unum⟩ observation.players = some record ∧
        record.tackling = true ∧ previous = some before ∧
        before.find? ⟨touch.side, touch.unum⟩ = some old ∧ old.tackleCycles = 0 := by
  rw [attribution_build] at hTouch
  obtain ⟨before, rfl, hTouch⟩ := TouchRules.mem_candidates_of_mem_attribution hTouch
  have hBefore := hPrevious before rfl
  obtain ⟨player, old, hBy⟩ :=
    (observer.mem_candidates_build_iff observation deadline hBefore touch).mp hTouch
  have hFind := (hBefore.find?_eq_some_iff _ old).mpr ⟨hBy.known, hBy.sameIdentity⟩
  have hStarted : player.tackleCycles = 1 := by
    rcases hBy.kind_eq with ⟨hKick, -⟩ | ⟨-, -, hTackle⟩
    · rw [hKind] at hKick
      contradiction
    · exact hTackle.started
  obtain ⟨record, hRecord⟩ := Option.isSome_iff_exists.mp
    ((observation.sees_iff _).mp hBy.sighted)
  obtain ⟨next, inTime, trajectory, hNext, rfl⟩ :=
    observer.exists_nextPlayer_of_mem_build observation deadline hPrevious
      (List.mem_of_getElem? hBy.position) hBy.identity
  rw [hRecord, IdentityTrack.nextPlayer_of_known observer _ hFind] at hNext
  obtain rfl := Option.some.inj hNext
  rw [evaluate_tackleCycles] at hStarted
  obtain ⟨hTackling, hFirst⟩ := eq_one_of_streak hStarted
  exact ⟨record, before, old, hRecord, hTackling, rfl, hFind, hFirst⟩

end Observer

namespace WorldModel

/-- The player is listed as one that touched the ball by a tackle. -/
def ListsTackle (model : WorldModel R) (identity : Identity) : Prop :=
  ∃ snapshot, model.current = some snapshot ∧ ∃ touch ∈ snapshot.attribution.candidates,
    touch.kind = .tackle ∧ (⟨touch.side, touch.unum⟩ : Identity) = identity

instance (model : WorldModel R) (identity : Identity) : Decidable (model.ListsTackle identity) :=
  decidable_of_iff
    ((model.current.any fun snapshot => snapshot.attribution.candidates.any fun touch =>
      touch.kind = .tackle ∧ (⟨touch.side, touch.unum⟩ : Identity) = identity) = true)
    (by simp only [ListsTackle, Option.any_eq_true, List.any_eq_true, decide_eq_true_eq])

variable {observer : Observer R} {identity : Identity}

/-- A tackle is listed in a cycle with a tackling record, the first of its streak. -/
theorem exists_record_of_listsTackle (hSide : observer.perspective.ourSide.isAssigned = true)
    {events : List (WorldEvent R)} {observation : CycleObservation R} {deadline : Deadline}
    (hLists : ((start observer).run
      (events ++ [.update observation deadline])).ListsTackle identity) :
    ∃ record old, (WorldEvent.update observation deadline).record? identity = some record ∧
      record.tackling = true ∧ playerAfter observer identity events = some old ∧
      old.tackleCycles = 0 := by
  have hCoherent : ∀ snapshot, ((start observer).run events).current = some snapshot →
      snapshot.IsCoherent := fun snapshot hCurrent =>
    (isReachable_of_current_run observer hSide events snapshot hCurrent).isCoherent
  obtain ⟨snapshot, hCurrent, touch, hTouch, hKind, rfl⟩ := hLists
  rw [run_append] at hCurrent
  obtain rfl : ((start observer).run events).next observation deadline = snapshot :=
    Option.some.inj hCurrent
  obtain ⟨record, before, old, hRecord, hTackling, hBefore, hFind, hFirst⟩ :=
    Observer.exists_record_of_tackle hCoherent hTouch hKind
  exact ⟨record, old, hRecord, hTackling, playerAfter_eq_some hBefore hFind, hFirst⟩

/-- The last record of a player whose count of tackling cycles is zero has the flag down. -/
theorem exists_last_of_tackleCycles_eq_zero
    (hSide : observer.perspective.ourSide.isAssigned = true) {events : List (WorldEvent R)}
    {player : Player R} (hKnown : playerAfter observer identity events = some player)
    (hZero : player.tackleCycles = 0) :
    ∃ first event last record, events = first ++ event :: last ∧
      event.record? identity = some record ∧ record.tackling = false ∧
      ∀ other ∈ last, other.record? identity = none := by
  obtain ⟨before, life, rfl, hLife⟩ := exists_isLife hKnown
  have hLives := hLife.lives hSide hKnown
  have hCount := hLives.hasStreaks.tackleCycles_eq
  have hNone : (0 : UInt32).toNat = 0 := rfl
  rw [hZero] at hCount
  have hEnded : PlayerObservation.streakLength PlayerObservation.tackling
      (WorldEvent.reports identity life) = 0 := by omega
  obtain ⟨later, record, earlier, hReports, hLater, hDown⟩ :=
    PlayerObservation.exists_last_of_streakLength_eq_zero hLives.exists_record hEnded
  obtain ⟨first, event, last, rfl, hEvent, hLast⟩ := WorldEvent.exists_event_of_reports hReports
  exact ⟨before ++ first, event, last, record, (List.append_assoc before first _).symm, hEvent,
    hDown, fun other hOther => hLater _ (hLast other hOther)⟩

/-- Between two cycles in which a tackle of one player is listed, a record of it has none. -/
theorem exists_record_between_tackles (hSide : observer.perspective.ourSide.isAssigned = true)
    {first between : List (WorldEvent R)} {observation observation' : CycleObservation R}
    {deadline deadline' : Deadline}
    (hFirst : ((start observer).run
      (first ++ [.update observation deadline])).ListsTackle identity)
    (hSecond : ((start observer).run (first ++ .update observation deadline :: between ++
      [.update observation' deadline'])).ListsTackle identity) :
    ∃ event ∈ between, ∃ record, event.record? identity = some record ∧
      record.tackling = false := by
  obtain ⟨record, -, hRecord, hUp, -⟩ := exists_record_of_listsTackle hSide hFirst
  obtain ⟨-, old, -, -, hKnown, hZero⟩ := exists_record_of_listsTackle hSide hSecond
  obtain ⟨before, event, last, downRecord, hEvents, hEvent, hDown, hLast⟩ :=
    exists_last_of_tackleCycles_eq_zero hSide hKnown hZero
  -- The first tackle has a record with the flag up, so it was before the record with the flag down.
  have hDifferent : WorldEvent.update observation deadline ≠ event := by
    rintro rfl
    obtain rfl := Option.some.inj (hRecord.symm.trans hEvent)
    rw [hUp] at hDown
    contradiction
  have hNotLater : WorldEvent.update observation deadline ∉ last := by
    intro hMem
    rw [hLast _ hMem] at hRecord
    contradiction
  rcases List.append_eq_append_iff.mp hEvents with ⟨rest, -, hRest⟩ | ⟨rest, -, hRest⟩
  · cases rest with
    | nil => exact absurd (List.cons.inj hRest).1 hDifferent
    | cons other rest =>
        obtain ⟨-, rfl⟩ := List.cons.inj hRest
        exact ⟨event, List.mem_append_right rest List.mem_cons_self, downRecord, hEvent, hDown⟩
  · cases rest with
    | nil => exact absurd (List.cons.inj hRest).1.symm hDifferent
    | cons other rest =>
        obtain ⟨-, rfl⟩ := List.cons.inj hRest
        exact absurd (List.mem_append_right rest List.mem_cons_self) hNotLater

/-- The counters of every player of every run are the lengths of its streaks, and so are its
freezes.  Two tackles of one player are listed only if a record between them has none, whatever
happened to the player or to the model in the meantime. -/
theorem hasStreaks_run (ourSide : Side) (hSide : ourSide.isAssigned = true)
    (config : WorldConfig R) (selfUnum : Option Nat) (identity : Identity) :
    (∀ events snapshot player,
      ((start (Observer.create ourSide config selfUnum)).run events).current = some snapshot →
        snapshot.find? identity = some player →
          (∃ before life, events = before ++ life ∧
            IsLife (Observer.create ourSide config selfUnum) identity before life) ∧
          ∀ before life, events = before ++ life →
            IsLife (Observer.create ourSide config selfUnum) identity before life →
              player.HasStreaks (WorldEvent.reports identity life) ∧
              ∀ tackleCycles foulCycles : UInt32,
                (player.lockoutRemaining tackleCycles foulCycles).toNat =
                  max
                    (PlayerObservation.cyclesLeft tackleCycles (PlayerObservation.streakLength
                      PlayerObservation.tackling (WorldEvent.reports identity life)))
                    (PlayerObservation.cyclesLeft foulCycles (PlayerObservation.streakLength
                      PlayerObservation.charged (WorldEvent.reports identity life)))) ∧
      ∀ first observation deadline between observation' deadline',
        ((start (Observer.create ourSide config selfUnum)).run
          (first ++ [.update observation deadline])).ListsTackle identity →
        ((start (Observer.create ourSide config selfUnum)).run
          (first ++ .update observation deadline :: between ++
            [.update observation' deadline'])).ListsTackle identity →
          ∃ middle deadline, .update middle deadline ∈ between ∧
            ∃ record ∈ PlayerObservation.acceptedRecords middle.players,
              record.identity? = some identity ∧ record.tackling = false := by
  constructor
  · intro events snapshot player hCurrent hFind
    have hKnown := playerAfter_eq_some hCurrent hFind
    refine ⟨exists_isLife hKnown, ?_⟩
    rintro before life rfl hLife
    have hStreaks := (hLife.lives hSide hKnown).hasStreaks
    exact ⟨hStreaks, hStreaks.toNat_lockoutRemaining⟩
  · intro first observation deadline between observation' deadline' hFirst hSecond
    obtain ⟨event, hBetween, record, hRecord, hDown⟩ :=
      exists_record_between_tackles hSide hFirst hSecond
    obtain ⟨middle, middleDeadline, rfl, hAccepted, hIdentity⟩ :=
      WorldEvent.exists_update_of_record? hRecord
    exact ⟨middle, middleDeadline, hBetween, record, hAccepted, hIdentity, hDown⟩

/-- Our number seven at the ball, with or without a tackle. -/
def atBall (cycle : UInt32) (tackling : Bool) : WorldEvent Float :=
  .update
    { cycle := cycle
      ball := some ⟨Vec2.zero, Vec2.zero⟩
      players :=
        [{ side := Side.left, unum := some 7, position := Vec2.zero, tackling := tackling }] }
    .passed

/-- A match in which a tackle reaches any ball. -/
def longTackles : WorldConfig Float :=
  { WorldConfig.standard with rules := { tackleDist := 1.0 / 0.0 } }

theorem hasStreaks_run_atBall :
    Side.left.isAssigned = true ∧
      ((start (Observer.create Side.left longTackles none)).run
        [atBall 1 false, atBall 2 true]).ListsTackle ⟨Side.left, 7, by decide, by decide⟩ ∧
      ((start (Observer.create Side.left longTackles none)).run
        [atBall 1 false, atBall 2 true, .update { cycle := 3 } .passed, .reset, atBall 4 false,
          atBall 5 true]).ListsTackle ⟨Side.left, 7, by decide, by decide⟩ ∧
      ∃ middle deadline,
        .update middle deadline ∈
          [.update { cycle := 3 } .passed, .reset, atBall 4 false] ∧
        ∃ record ∈ PlayerObservation.acceptedRecords middle.players,
          record.identity? = some ⟨Side.left, 7, by decide, by decide⟩ ∧
          record.tackling = false := by
  have hFirst : ((start (Observer.create Side.left longTackles none)).run
      [atBall 1 false, atBall 2 true]).ListsTackle ⟨Side.left, 7, by decide, by decide⟩ := by
    decide +kernel
  have hSecond : ((start (Observer.create Side.left longTackles none)).run
      [atBall 1 false, atBall 2 true, .update { cycle := 3 } .passed, .reset, atBall 4 false,
        atBall 5 true]).ListsTackle ⟨Side.left, 7, by decide, by decide⟩ := by
    decide +kernel
  exact ⟨rfl, hFirst, hSecond, (hasStreaks_run Side.left rfl longTackles none _).2
    [atBall 1 false] _ _ [.update { cycle := 3 } .passed, .reset, atBall 4 false] _ _ hFirst
      hSecond⟩

end WorldModel

end SoccerWorld
