import SoccerWorld.Proofs.Tactics.SecondDefender
import SoccerWorld.Proofs.World.Conservation
import SoccerWorld.Proofs.World.Deadlines

/-!
# Offside lines in snapshots

A snapshot has the lines of all of its players: only the side of a player is asked for, and neither
its number nor whether it was seen in this cycle (`Snapshot.HasLinesOf`).  These are the lines of
the tracked players too, because neither the evaluation nor the sort moves a player
(`Observer.hasLinesOf_tracked`).  Our line is in our half and theirs is in theirs, in every snapshot
of a run (`Snapshot.HoldsOffsideLines`).  Main statement: `WorldModel.offsideLines_characterized`.
-/

namespace SoccerWorld

variable {R : Type} [Scalar R]

/-- The offside lines are drawn from some players, each team's from all that are on its side. -/
structure Snapshot.HasLinesOf (snapshot : Snapshot R) (players : List (Player R)) : Prop where
  ours : snapshot.ourOffsideLine = Offside.lineTowardNegative
    (Observer.teamLine (fun side => side = snapshot.ourSide) players)
  theirs : snapshot.theirOffsideLine = Offside.lineTowardPositive
    (Observer.teamLine (fun side => side ≠ snapshot.ourSide) players)

/-- The offside lines are those of all players of the snapshot, each in the half of its team. -/
structure Snapshot.HoldsOffsideLines (snapshot : Snapshot R) : Prop where
  hasLinesOf : snapshot.HasLinesOf snapshot.players
  ours_le_zero : Scalar.le snapshot.ourOffsideLine 0.0 = true
  zero_le_theirs : Scalar.le 0.0 snapshot.theirOffsideLine = true

namespace Observer

variable (observer : Observer R) (observation : CycleObservation R)
  (previous : Option (Snapshot R)) (deadline : Deadline)

theorem hasLinesOf_players :
    (observer.build observation previous deadline).HasLinesOf
      (observer.build observation previous deadline).players where
  ours := rfl
  theirs := by
    simp only [ne_eq, decide_not]
    rfl

/-- Neither the evaluation nor the sort moves a line. -/
theorem hasLinesOf_tracked [Scalar.IsOrdered R] :
    (observer.build observation previous deadline).HasLinesOf
      (observer.tracked observation previous) := by
  have hLines := observer.hasLinesOf_players observation previous deadline
  have hSame : SamePlayers (observer.build observation previous deadline).players
      (observer.tracked observation previous) :=
    observer.map_build_players_perm observation previous deadline
      (IdentityTrack.unevaluated_evaluate observer)
  constructor
  · rw [hLines.ours]
    exact Offside.lineTowardNegative_perm (teamLine_perm _ hSame)
  · rw [hLines.theirs]
    exact Offside.lineTowardPositive_perm (teamLine_perm _ hSame)

theorem holdsOffsideLines_build [Scalar.HasDistances R] [Scalar.HasFiniteLine R]
    [Scalar.IsOrdered R] :
    (observer.build observation previous deadline).HoldsOffsideLines where
  hasLinesOf := observer.hasLinesOf_players observation previous deadline
  ours_le_zero := Offside.lineTowardNegative_le_halfway _
  zero_le_theirs := Offside.halfway_le_lineTowardPositive _

end Observer

namespace WorldModel

variable [Scalar.IsOrdered R] [Scalar.IsSigned R] [Scalar.HasDistances R] [Scalar.HasFiniteLine R]

/-- A line is drawn through the second of the positions that count, and every snapshot has the lines
of all tracked players on either side of the halfway line. -/
theorem offsideLines_characterized :
    (∀ defenders : List R, Offside.DrawsLines defenders) ∧
      (∀ (observer : Observer R) (observation : CycleObservation R)
        (previous : Option (Snapshot R)) (deadline : Deadline),
          (observer.build observation previous deadline).HasLinesOf
            (observer.tracked observation previous)) ∧
      ∀ (observer : Observer R) (events : List (WorldEvent R)) (snapshot : Snapshot R),
        ((start observer).run events).current = some snapshot → snapshot.HoldsOffsideLines := by
  refine ⟨Offside.drawsLines, ?_, ?_⟩
  · intro observer observation previous deadline
    exact observer.hasLinesOf_tracked observation previous deadline
  · intro observer events
    refine current_run_induction (start observer) ?_ ?_ events
    · intro observation previous deadline _
      exact observer.holdsOffsideLines_build observation previous deadline
    · intro snapshot hNone
      contradiction

/-- Defenders of whom one is lost, one is out of bounds, and the goalkeeper is the last. -/
def defendersAndGoalkeeper : List Float :=
  [50.0, Binary64.undefined, 35.5, 20.0, Binary64.infinity, 34.0]

theorem offsideLines_defendersAndGoalkeeper :
    Offside.IsSecond (Offside.counted defendersAndGoalkeeper) 35.5 ∧
      Scalar.same (Offside.lineTowardPositive defendersAndGoalkeeper)
        (Scalar.maximum 35.5 Offside.halfway) = true ∧
      ∃ snapshot : Snapshot Float,
        ((start (Observer.create Side.left WorldConfig.standard none)).run
          [.update Observer.earlierRecords .ahead,
            .update Observer.mixedRecords .passed]).current = some snapshot ∧
        snapshot.HoldsOffsideLines := by
  have hMem : (35.5 : Float) ∈ Offside.counted defendersAndGoalkeeper :=
    List.mem_filter.mpr ⟨by simp [defendersAndGoalkeeper], by decide +kernel⟩
  have hSecond : Offside.IsSecond (Offside.counted defendersAndGoalkeeper) 35.5 :=
    ⟨hMem, by decide +kernel, by decide +kernel⟩
  obtain ⟨hDraws, -, hSnapshots⟩ := offsideLines_characterized (R := Float)
  refine ⟨hSecond, (hDraws defendersAndGoalkeeper).isLineOf.same_of_isSecond 35.5 hSecond, _, rfl,
    ?_⟩
  exact hSnapshots (Observer.create Side.left WorldConfig.standard none)
    [.update Observer.earlierRecords .ahead, .update Observer.mixedRecords .passed] _ rfl

end WorldModel

end SoccerWorld
