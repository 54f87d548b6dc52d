import SoccerWorld.Proofs.Numeric.Laws
import SoccerWorld.Proofs.Scenario.Replay
import SoccerWorld.Proofs.World.Ranking

/-!
# Reports are in the simulator's frame

Records are turned on entry, kept, sorted and carried in the canonical frame, and turned again in
the report.  `CycleReport.Shows` says of a report, in the simulator's frame throughout, what it
shows of its observation: a row for each accepted record at the very position that was observed,
rows of other players only where those roll on, and the ball where it was observed or rolled to.

A position is turned twice, which gives it back (`turnVector_turnVector`).  For a ball that rolls
on, the turned sum is the sum of the turned vectors, up to the sign of a zero
(`isAlike_turnVector_add`).  Main statement: every report of a replay shows its observation
(`Scenario.shows_run`).
-/

namespace SoccerWorld

variable {R : Type} [Scalar R]

/-- Two vectors are alike in both coordinates. -/
def Vec2.IsAlike (v w : Vec2 R) : Prop :=
  Scalar.IsAlike v.x w.x ∧ Scalar.IsAlike v.y w.y

/-! ## What a report must show -/

namespace ReachRow

/-- The player that a row is of, where its number is known. -/
def identity? (row : ReachRow R) : Option Identity :=
  row.unum.map fun unum => ⟨row.side, unum⟩

/-- The row has the side and the number of a record, at the position that was observed. -/
structure IsOf (record : PlayerObservation R) (row : ReachRow R) : Prop where
  side : row.side = record.side
  unum : row.unum.map Unum.number = record.unum.map UInt8.toNat
  position : row.position = record.position

/-- The row is of a player that no accepted record names and that the snapshot before reported. -/
def IsCarried (observation : CycleObservation R) (previous : Option (Snapshot R))
    (row : ReachRow R) : Prop :=
  ∃ identity, row.identity? = some identity ∧
    (∀ record ∈ PlayerObservation.acceptedRecords observation.players,
      record.identity? ≠ some identity) ∧
    ∃ before, previous = some before ∧
      ∃ earlier ∈ (CycleReport.ofSnapshot before).reachTable, earlier.identity? = some identity

end ReachRow

/-- What a report shows of an observation that came after a snapshot. -/
structure CycleReport.Shows (view : Perspective) (observation : CycleObservation R)
    (previous : Option (Snapshot R)) (report : CycleReport R) : Prop where
  /-- Each accepted record has its row, and the other rows are of players that roll on. -/
  rows : ∃ seen carried, report.reachTable.Perm (seen ++ carried) ∧
    List.Forall₂ ReachRow.IsOf (PlayerObservation.acceptedRecords observation.players) seen ∧
    ∀ row ∈ carried, row.IsCarried observation previous
  /-- A player that a record names is in one row only. -/
  only_row : ∀ record ∈ PlayerObservation.acceptedRecords observation.players,
    record.unum.isSome = true →
      ∃ row, report.reachTable.filter (fun row => row.identity? = record.identity?) = [row] ∧
        row.IsOf record
  evaluated : ∀ row ∈ report.reachTable, row.reachStep.isSome = true
  ascending : report.reachTable.Pairwise fun row later =>
    row.reachStep.getD 0 ≤ later.reachStep.getD 0
  ball_observed : ∀ seen, observation.ball = some seen → report.ballPosition = seen.position
  /-- An unseen ball is where the report before has it, moved on by its velocity: exactly so if the
  sum is taken in the canonical frame, and up to the sign of a zero in the simulator's frame. -/
  ball_rolled : ∀ before, observation.ball = none → previous = some before →
    report.ballPosition = view.turnVector
        (view.turnVector (CycleReport.ofSnapshot before).ballPosition + before.ball.velocity) ∧
      report.ballPosition.IsAlike ((CycleReport.ofSnapshot before).ballPosition +
        view.turnVector before.ball.velocity)
  ball_unknown : observation.ball = none → previous = none →
    report.ballPosition.IsAlike Vec2.zero
  /-- One text for each record that was left out, in order. -/
  dropped : List.Forall₂ (fun record text => ∃ fault, record.IsFaultOf fault ∧ text = fault.message)
    (PlayerObservation.rejectedRecords observation.players)
    (report.dropped.map RecordFault.message)

/-! ## Turning twice -/

namespace Perspective

variable [Scalar.IsSigned R] (view : Perspective)

/-- One map leads both ways between the frames. -/
@[simp]
theorem turnVector_turnVector (v : Vec2 R) : view.turnVector (view.turnVector v) = v := by
  unfold turnVector
  split
  · show (⟨- -v.x, - -v.y⟩ : Vec2 R) = v
    rw [Scalar.IsSigned.neg_neg, Scalar.IsSigned.neg_neg]
  · rfl

theorem isAlike_turnVector_add (v w : Vec2 R) :
    (view.turnVector (v + w)).IsAlike (view.turnVector v + view.turnVector w) := by
  unfold turnVector
  split
  · exact ⟨Scalar.IsSigned.neg_add v.x w.x, Scalar.IsSigned.neg_add v.y w.y⟩
  · exact ⟨Or.inl rfl, Or.inl rfl⟩

theorem isAlike_turnVector_zero : (view.turnVector (Vec2.zero : Vec2 R)).IsAlike Vec2.zero := by
  unfold turnVector
  split
  · exact ⟨Scalar.IsSigned.neg_zero, Scalar.IsSigned.neg_zero⟩
  · exact ⟨Or.inl rfl, Or.inl rfl⟩

end Perspective

/-! ## One player and its row -/

namespace PlayerObservation

theorem IsWellFormed.map_number? {record : PlayerObservation R}
    (hWellFormed : record.IsWellFormed) :
    record.number?.map Unum.number = record.unum.map UInt8.toNat := by
  cases hUnum : record.unum with
  | none => rw [number?, hUnum]; rfl
  | some raw =>
      obtain ⟨unum, hUnique, hNumber⟩ := hWellFormed.number?_eq hUnum
      rw [hNumber, Option.map_some, Option.map_some, Unum.ofNat?_eq_some_iff.mp hUnique]

theorem isWellFormed_of_mem_acceptedRecords {records : List (PlayerObservation R)}
    {record : PlayerObservation R} (hRecord : record ∈ acceptedRecords records) :
    record.IsWellFormed := by
  unfold acceptedRecords at hRecord
  obtain ⟨entry, hEntry, rfl⟩ := List.mem_map.mp hRecord
  obtain ⟨hPlace, hAccepted⟩ := List.mem_filter.mp hEntry
  have hAccepted : IsAccepted records entry.2 := by simpa using hAccepted
  exact hAccepted.isWellFormed (List.mem_zipIdx_iff_getElem?.mp hPlace)

end PlayerObservation

/-- What stands on the right of a list relation has its partner on the left. -/
theorem exists_left_of_forall₂ {α β : Type} {Rel : α → β → Prop} {xs : List α} {ys : List β}
    (hRel : List.Forall₂ Rel xs ys) {y : β} (hy : y ∈ ys) : ∃ x ∈ xs, Rel x y := by
  induction hRel with
  | nil => contradiction
  | cons hHead _ ih =>
      rcases List.mem_cons.mp hy with rfl | hLater
      · exact ⟨_, List.mem_cons_self, hHead⟩
      · obtain ⟨x, hx, hxy⟩ := ih hLater
        exact ⟨x, List.mem_cons_of_mem _ hx, hxy⟩

namespace Snapshot

/-- The row of a player. -/
def rowOf (snapshot : Snapshot R) (player : Player R) : ReachRow R :=
  ⟨player.side, player.unum, player.isGoalie, snapshot.externalPosition player, player.reachStep⟩

@[simp]
theorem identity?_rowOf (snapshot : Snapshot R) (player : Player R) :
    (snapshot.rowOf player).identity? = player.identity? := rfl

theorem reachTable_ofSnapshot (snapshot : Snapshot R) :
    (CycleReport.ofSnapshot snapshot).reachTable = snapshot.players.map snapshot.rowOf := rfl

/-- A player that was seen as a record is shown as that record. -/
theorem isOf_rowOf [Scalar.IsSigned R] (snapshot : Snapshot R) {record : PlayerObservation R}
    {player : Player R} (hWellFormed : record.IsWellFormed)
    (hSeen : player.IsSeenAs snapshot.perspective record) :
    (snapshot.rowOf player).IsOf record := by
  refine ⟨hSeen.side, ?_, ?_⟩
  · show player.unum.map Unum.number = _
    rw [hSeen.unum, hWellFormed.map_number?]
  · show snapshot.perspective.turnVector player.position = _
    rw [hSeen.position, Perspective.turnVector_turnVector]

end Snapshot

/-! ## One cycle -/

namespace Observer

variable (observer : Observer R) (observation : CycleObservation R)
  {previous : Option (Snapshot R)}

/-- A player that rolls on was reported of the snapshot before, and no accepted record names it. -/
theorem isCarried_rowOf {old player : Player R} (snapshot : Snapshot R)
    (hOld : old ∈ observer.carriedPlayers observation previous) (hRolls : old.RollsOnAs player) :
    (snapshot.rowOf player).IsCarried observation previous := by
  obtain ⟨before, hBefore, hMem, hRolling⟩ := Tracking.rollsOn_of_mem_rolling hOld
  obtain ⟨⟨identity, hIdentity, hUnseen⟩, -⟩ := Tracking.rollsOn_eq_true_iff.mp hRolling
  refine ⟨identity, ?_, ?_, before, hBefore, before.rowOf old, List.mem_map_of_mem hMem, hIdentity⟩
  · rw [Snapshot.identity?_rowOf, Player.identity?, hRolls.side, hRolls.unum]
    exact hIdentity
  · intro record hRecord hSame
    exact hUnseen (List.mem_filterMap.mpr ⟨record, hRecord, hSame⟩)

variable [Scalar.IsSigned R]

theorem exists_rows_build (hPrevious : ∀ snapshot, previous = some snapshot → snapshot.IsCoherent)
    (deadline : Deadline) :
    ∃ seen carried,
      (CycleReport.ofSnapshot (observer.build observation previous deadline)).reachTable.Perm
        (seen ++ carried) ∧
      List.Forall₂ ReachRow.IsOf (PlayerObservation.acceptedRecords observation.players) seen ∧
      ∀ row ∈ carried, row.IsCarried observation previous := by
  obtain ⟨seen, carried, hPerm, hSeen, hCarried⟩ :=
    observer.exists_perm_build_players observation deadline hPrevious
  have hRows := hPerm.map (observer.build observation previous deadline).rowOf
  rw [List.map_append] at hRows
  refine ⟨_, _, hRows, ?_, ?_⟩
  · rw [List.forall₂_map_right_iff]
    have hWellFormed := (List.forall₂_and_left _ _).mpr
      ⟨fun _ => PlayerObservation.isWellFormed_of_mem_acceptedRecords, hSeen⟩
    exact hWellFormed.imp fun record player hPlayer =>
      Snapshot.isOf_rowOf _ hPlayer.1 hPlayer.2
  · intro row hRow
    obtain ⟨player, hPlayer, rfl⟩ := List.mem_map.mp hRow
    obtain ⟨old, hOld, hRolls⟩ := exists_left_of_forall₂ hCarried hPlayer
    exact observer.isCarried_rowOf observation _ hOld hRolls

/-- The rows of one identity are as many as its players, of which there is one. -/
theorem exists_only_row_build (hSide : observer.perspective.ourSide.isAssigned = true)
    (hPrevious : ∀ snapshot, previous = some snapshot → snapshot.IsCoherent)
    (deadline : Deadline) {record : PlayerObservation R}
    (hRecord : record ∈ PlayerObservation.acceptedRecords observation.players)
    (hUnum : record.unum.isSome = true) :
    ∃ row, (CycleReport.ofSnapshot
        (observer.build observation previous deadline)).reachTable.filter
          (fun row => row.identity? = record.identity?) = [row] ∧ row.IsOf record := by
  have hWellFormed := PlayerObservation.isWellFormed_of_mem_acceptedRecords hRecord
  obtain ⟨seen, carried, hPerm, hSeen, -⟩ :=
    observer.exists_perm_build_players observation deadline hPrevious
  obtain ⟨player, hPlayer, hIsSeen⟩ := exists_left_of_forall₂ hSeen.flip hRecord
  have hMem := hPerm.mem_iff.mpr (List.mem_append_left carried hPlayer)
  obtain ⟨raw, hRaw⟩ := Option.isSome_iff_exists.mp hUnum
  obtain ⟨unum, -, hNumber⟩ := hWellFormed.number?_eq hRaw
  have hIdentity : record.identity? = some ⟨record.side, unum⟩ := by
    rw [PlayerObservation.identity?, hNumber, Option.map_some]
  have hPlayerIdentity : player.identity? = some ⟨record.side, unum⟩ :=
    Player.identity?_eq_some_iff.mpr ⟨hIsSeen.side, hIsSeen.unum.trans hNumber⟩
  refine ⟨_, ?_, Snapshot.isOf_rowOf (observer.build observation previous deadline) hWellFormed
    hIsSeen⟩
  have hDistinct := (observer.isCoherent_build observation deadline hSide hPrevious).distinct
  rw [hIdentity, Snapshot.reachTable_ofSnapshot, List.filter_map]
  exact congrArg _ (hDistinct.filter_identity hMem hPlayerIdentity)

/-- A build against a coherent snapshot of the same perspective, or against none, is reported in the
simulator's frame. -/
theorem shows_build (hSide : observer.perspective.ourSide.isAssigned = true)
    (hPrevious : ∀ snapshot, previous = some snapshot →
      snapshot.IsCoherent ∧ snapshot.perspective = observer.perspective) :
    (CycleReport.ofSnapshot (observer.build observation previous .ahead)).Shows
      observer.perspective observation previous := by
  have hCoherent : ∀ snapshot, previous = some snapshot → snapshot.IsCoherent :=
    fun snapshot hSnapshot => (hPrevious snapshot hSnapshot).1
  have hBall : (CycleReport.ofSnapshot (observer.build observation previous .ahead)).ballPosition =
      observer.perspective.turnVector (Tracking.ball observer.config.rules.ballDecay
        observer.perspective previous observation.ball).position := rfl
  refine ⟨observer.exists_rows_build observation hCoherent .ahead, ?_, ?_, ?_, ?_, ?_, ?_, ?_⟩
  · intro record hRecord hUnum
    exact observer.exists_only_row_build observation hSide hCoherent .ahead hRecord hUnum
  · intro row hRow
    obtain ⟨player, hPlayer, rfl⟩ := List.mem_map.mp hRow
    show player.reachStep.isSome = true
    rw [observer.reachStep_of_mem_build_ahead observation previous player hPlayer]
    rfl
  · rw [Snapshot.reachTable_ofSnapshot, List.pairwise_map]
    exact (observer.isStableSort_build observation previous).ascending
  · intro seen hSeen
    rw [hBall, hSeen]
    exact observer.perspective.turnVector_turnVector seen.position
  · intro before hUnseen hBefore
    have hReported : (CycleReport.ofSnapshot before).ballPosition =
        observer.perspective.turnVector before.ball.position := by
      rw [← (hPrevious before hBefore).2]
      rfl
    rw [hBall, hUnseen, hBefore, hReported, Perspective.turnVector_turnVector]
    exact ⟨rfl, observer.perspective.isAlike_turnVector_add _ _⟩
  · intro hUnseen hFirst
    rw [hBall, hUnseen, hFirst]
    exact observer.perspective.isAlike_turnVector_zero
  · rw [List.forall₂_map_right_iff]
    exact (PlayerObservation.isFaultOf_sift observation.players).imp
      fun record fault hFault => ⟨fault, hFault, rfl⟩

end Observer

/-! ## A replay -/

namespace Scenario

variable {scenario : Scenario R} {config : WorldConfig R}

/-- The snapshot against which the snapshot at a place is built. -/
def snapshotBefore (scenario : Scenario R) (config : WorldConfig R) : Nat → Option (Snapshot R)
  | 0 => none
  | n + 1 => (scenario.snapshotsUnder config)[n]?

theorem getElem?_snapshotsUnder (n : Nat) :
    (scenario.snapshotsUnder config)[n]? = scenario.cycles[n]?.map fun observation =>
      (scenario.model config).observer.build observation (scenario.snapshotBefore config n)
        .ahead := by
  cases n with
  | zero => exact getElem?_snapshots_zero (scenario.model config) scenario.cycles
  | succ n => exact getElem?_snapshots_succ (scenario.model config) scenario.cycles n

theorem isCoherent_of_mem_snapshotsUnder (hSide : scenario.ourSide.isAssigned = true)
    (config : WorldConfig R) :
    ∀ snapshot ∈ scenario.snapshotsUnder config,
      snapshot.IsCoherent ∧ snapshot.perspective = ⟨scenario.ourSide⟩ := by
  refine forall_mem_snapshots (scenario.model config) ?_ ?_ scenario.cycles
  · intro observation previous hPrevious
    exact ⟨Observer.isCoherent_build _ observation .ahead hSide fun snapshot hSnapshot =>
      (hPrevious snapshot hSnapshot).1, rfl⟩
  · intro snapshot hNone
    contradiction

/-- Seen from either side, a scenario with a usable configuration is replayed to one report for each
observation, which shows the observation in the simulator's frame.  There is a report exactly if
memory for trajectories can be allocated or none is needed. -/
theorem shows_run [Scalar.IsSigned R] (hSide : scenario.ourSide.isAssigned = true)
    (hConfig : scenario.resolveConfig = .ok config) :
    ((∃ report, scenario.run = .ok report) ↔
        scenario.cycles = [] ∨ Trajectory.IsAllocatable config.flight) ∧
      ∀ report, scenario.run = .ok report →
        report.cycles = (scenario.snapshotsUnder config).map CycleReport.ofSnapshot ∧
        report.cycles.length = scenario.cycles.length ∧
        ∀ n observation, scenario.cycles[n]? = some observation →
          ∃ snapshot, (scenario.snapshotsUnder config)[n]? = some snapshot ∧
            (CycleReport.ofSnapshot snapshot).Shows ⟨scenario.ourSide⟩ observation
              (scenario.snapshotBefore config n) := by
  have hCoherent := isCoherent_of_mem_snapshotsUnder hSide config
  refine ⟨exists_run_eq_ok_iff hConfig, ?_⟩
  intro report hRun
  obtain ⟨-, rfl⟩ := (run_eq_ok_iff hConfig report).mp hRun
  refine ⟨rfl, ?_, ?_⟩
  · show ((scenario.snapshotsUnder config).map CycleReport.ofSnapshot).length = _
    rw [List.length_map]
    exact length_snapshots (scenario.model config) scenario.cycles
  · intro n observation hObservation
    rw [getElem?_snapshotsUnder, hObservation, Option.map_some]
    refine ⟨_, rfl, (scenario.model config).observer.shows_build observation hSide ?_⟩
    intro before hBefore
    cases n with
    | zero => contradiction
    | succ n => exact hCoherent before (List.mem_of_getElem? hBefore)

/-- Seen from the right, a cycle with a record out of range and a player without a number, and one
in which the ball and one player are out of sight. -/
def lostBall : Scenario Float where
  id := "lost ball"
  ourSide := Side.right
  cycles :=
    [{ cycle := 1
       ball := some ⟨⟨3.0, -1.0⟩, ⟨0.5, 0.25⟩⟩
       players :=
         [{ side := Side.right, unum := some 7, position := ⟨5.0, 2.0⟩ },
           { side := Side.left, unum := some 12, position := ⟨-8.0, 0.0⟩ },
           { side := Side.left, unum := some 4, position := ⟨-2.0, 1.0⟩ },
           { side := Side.left, position := ⟨-6.0, 3.0⟩ }] },
      { cycle := 2
        players := [{ side := Side.right, unum := some 7, position := ⟨4.5, 2.0⟩ }] }]

theorem shows_run_lostBall :
    lostBall.ourSide.isAssigned = true ∧ lostBall.resolveConfig = .ok WorldConfig.standard ∧
      ∃ report, lostBall.run = .ok report ∧
        report.cycles =
          (lostBall.snapshotsUnder WorldConfig.standard).map CycleReport.ofSnapshot ∧
        report.cycles.length = lostBall.cycles.length ∧
        ∀ n observation, lostBall.cycles[n]? = some observation →
          ∃ snapshot, (lostBall.snapshotsUnder WorldConfig.standard)[n]? = some snapshot ∧
            (CycleReport.ofSnapshot snapshot).Shows ⟨lostBall.ourSide⟩ observation
              (lostBall.snapshotBefore WorldConfig.standard n) := by
  have hConfig : lostBall.resolveConfig = .ok WorldConfig.standard := rfl
  have hRun := shows_run rfl hConfig
  obtain ⟨report, hReport⟩ := hRun.1.mpr (Or.inr (by decide))
  exact ⟨rfl, hConfig, report, hReport, hRun.2 report hReport⟩

end Scenario
end SoccerWorld
