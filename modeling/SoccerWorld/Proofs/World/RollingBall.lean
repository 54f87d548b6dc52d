import SoccerWorld.Proofs.Ball.Continuation
import SoccerWorld.Proofs.World.Invariant

/-!
# A ball that is not seen rolls on as it was predicted

While no observation has the ball in it, the ball of each snapshot is the propagated ball of the one
before (`WorldModel.ball_run_of_missesBall`).  Together with what a trajectory lists, this gives the
main statement: the snapshots that follow hold the ball where an earlier trajectory has it, and
their own trajectories continue that one (`WorldModel.rollsInto_run`).
-/

namespace SoccerWorld

variable {R : Type} [Scalar R]

/-- A cycle in which the ball is not seen. -/
def WorldEvent.MissesBall : WorldEvent R → Prop
  | update observation _ => observation.ball = none
  | reset => False

/-- The ball of a snapshot rolls on to that of a later one, unseen for some cycles. -/
structure Snapshot.RollsInto (decay : R) (cycles : Nat) (snapshot later : Snapshot R) : Prop where
  ball_eq : later.ball = (fun ball => ball.propagated decay)^[cycles] snapshot.ball
  posAge_eq : later.ball.posAge.toNat = min (snapshot.ball.posAge.toNat + cycles) 4294967295
  velAge_eq : later.ball.velAge.toNat = min (snapshot.ball.velAge.toNat + cycles) 4294967295
  positionAt?_eq : cycles < snapshot.trajectory.size →
    snapshot.trajectory.positionAt? cycles = some later.ball.position
  /-- Where both trajectories have a sample for a cycle, it is the same one. -/
  position_eq : ∀ step position position', later.trajectory.positionAt? step = some position →
    snapshot.trajectory.positionAt? (cycles + step) = some position' → position = position'
  outOfBounds : snapshot.trajectory.ending = .outOfBounds → cycles < snapshot.trajectory.size →
    later.trajectory.ending = .outOfBounds ∧
      later.trajectory.size = snapshot.trajectory.size - cycles

/-- A snapshot's trajectory is that of its ball. -/
def Snapshot.FollowsBall (observer : Observer R) (snapshot : Snapshot R) : Prop :=
  snapshot.trajectory = observer.trajectoryOf snapshot.ball

/-- What a later ball and the two trajectories are, if each trajectory is that of its ball. -/
theorem Snapshot.FollowsBall.rollsInto {observer : Observer R} {snapshot later : Snapshot R}
    (hSnapshot : snapshot.FollowsBall observer) (hLater : later.FollowsBall observer)
    {cycles : Nat}
    (hBall : later.ball = snapshot.ball.after observer.config.rules.ballDecay cycles) :
    snapshot.RollsInto observer.config.rules.ballDecay cycles later := by
  obtain ⟨last, hEnds⟩ := Trajectory.exists_endsAt_compute snapshot.ball observer.config.rules
    observer.config.flight
  obtain ⟨last', hLaterEnds⟩ := Trajectory.exists_endsAt_compute later.ball observer.config.rules
    observer.config.flight
  rw [← Observer.trajectoryOf, ← hSnapshot] at hEnds
  rw [← Observer.trajectoryOf, ← hLater, hBall] at hLaterEnds
  have hAges := snapshot.ball.ages_after observer.config.rules.ballDecay cycles
  rw [← hBall] at hAges
  refine ⟨hBall, hAges.1, hAges.2, ?_, ?_, hEnds.outOfBounds_of_after hLaterEnds⟩
  · intro hCycles
    rw [hEnds.positionAt?_eq_some_iff]
    exact ⟨hCycles, congrArg Ball.position hBall.symm⟩
  · intro step position position' hPosition hPosition'
    exact hEnds.position_eq_of_after hLaterEnds hPosition hPosition'

namespace WorldModel

/-- In the snapshots of a run every trajectory is that of the ball. -/
theorem followsBall_of_current_run (observer : Observer R) (events : List (WorldEvent R))
    (snapshot : Snapshot R) (hCurrent : ((start observer).run events).current = some snapshot) :
    snapshot.FollowsBall observer := by
  refine current_run_induction (start observer) ?_ ?_ events snapshot hCurrent
  · intro observation previous deadline _
    rfl
  · intro snapshot hNone
    contradiction

/-- A cycle without the ball propagates it, or leaves it unknown. -/
theorem exists_current_step_of_missesBall (model : WorldModel R) {event : WorldEvent R}
    (hMisses : event.MissesBall) :
    ∃ next, (model.step event).current = some next ∧
      next.ball = (model.current.map fun snapshot =>
        snapshot.ball.propagated model.observer.config.rules.ballDecay).getD Ball.unknown := by
  cases event with
  | reset => exact absurd hMisses id
  | update observation deadline =>
      refine ⟨_, rfl, ?_⟩
      show Tracking.ball _ _ model.current observation.ball = _
      rw [show observation.ball = none from hMisses]
      cases model.current <;> rfl

/-- Cycles without the ball propagate it once each. -/
theorem ball_run_of_missesBall (model : WorldModel R) {snapshot : Snapshot R}
    (hCurrent : model.current = some snapshot) (unseen : List (WorldEvent R))
    (hUnseen : ∀ event ∈ unseen, event.MissesBall) :
    ∃ later, (model.run unseen).current = some later ∧
      later.ball = snapshot.ball.after model.observer.config.rules.ballDecay unseen.length := by
  induction unseen generalizing model snapshot with
  | nil => exact ⟨snapshot, hCurrent, rfl⟩
  | cons event unseen ih =>
      obtain ⟨next, hNext, hBall⟩ :=
        model.exists_current_step_of_missesBall (hUnseen event List.mem_cons_self)
      rw [hCurrent, Option.map_some, Option.getD_some] at hBall
      obtain ⟨later, hLater, hLaterBall⟩ := ih (model.step event) hNext
        fun event hEvent => hUnseen event (List.mem_cons_of_mem _ hEvent)
      refine ⟨later, hLater, ?_⟩
      rw [hLaterBall, hBall, observer_step]
      rfl

/-- A ball that was never seen stays as old as can be. -/
theorem ages_run_of_missesBall (model : WorldModel R) (hCurrent : model.current = none)
    (unseen : List (WorldEvent R)) (hUnseen : ∀ event ∈ unseen, event.MissesBall) :
    ∀ snapshot, (model.run unseen).current = some snapshot →
      snapshot.ball.posAge = 4294967295 ∧ snapshot.ball.velAge = 4294967295 := by
  cases unseen with
  | nil =>
      intro snapshot hSome
      rw [show (model.run []).current = none from hCurrent] at hSome
      contradiction
  | cons event unseen =>
      intro snapshot hSome
      obtain ⟨next, hNext, hBall⟩ :=
        model.exists_current_step_of_missesBall (hUnseen event List.mem_cons_self)
      rw [hCurrent, Option.map_none, Option.getD_none] at hBall
      obtain ⟨later, hLater, hLaterBall⟩ := (model.step event).ball_run_of_missesBall hNext unseen
        fun event hEvent => hUnseen event (List.mem_cons_of_mem _ hEvent)
      obtain rfl : later = snapshot := Option.some.inj (hLater.symm.trans hSome)
      have hAges := next.ball.ages_after (model.step event).observer.config.rules.ballDecay
        unseen.length
      have hOldest : (4294967295 : UInt32).toNat = 4294967295 := rfl
      rw [← hLaterBall, hBall] at hAges
      obtain ⟨hPos, hVel⟩ := hAges
      constructor
      · apply UInt32.toNat.inj
        rw [hPos, hOldest]
        exact Nat.min_eq_right (Nat.le_add_right _ _)
      · apply UInt32.toNat.inj
        rw [hVel, hOldest]
        exact Nat.min_eq_right (Nat.le_add_right _ _)

/-- After every run, a ball that is not seen for some more cycles rolls on as the trajectory of the
last snapshot has it; and a ball that was not seen since the beginning or a reset stays as old as
can be. -/
theorem rollsInto_run (ourSide : Side) (config : WorldConfig R) (selfUnum : Option Nat)
    (events : List (WorldEvent R)) (snapshot : Snapshot R)
    (hCurrent :
      ((start (Observer.create ourSide config selfUnum)).run events).current = some snapshot)
    (unseen : List (WorldEvent R)) (hUnseen : ∀ event ∈ unseen, event.MissesBall) :
    ∃ later,
      ((start (Observer.create ourSide config selfUnum)).run (events ++ unseen)).current =
          some later ∧
        snapshot.RollsInto config.rules.ballDecay unseen.length later ∧
        ∀ before missed, events = before ++ missed →
          ((start (Observer.create ourSide config selfUnum)).run before).current = none →
            (∀ event ∈ missed, event.MissesBall) →
              later.ball.posAge = 4294967295 ∧ later.ball.velAge = 4294967295 := by
  obtain ⟨later, hLater, hBall⟩ := ball_run_of_missesBall _ hCurrent unseen hUnseen
  rw [observer_run] at hBall
  rw [← run_append] at hLater
  refine ⟨later, hLater, ?_, ?_⟩
  · exact (followsBall_of_current_run _ events snapshot hCurrent).rollsInto
      (followsBall_of_current_run _ (events ++ unseen) later hLater) hBall
  · rintro before missed rfl hNone hMissed
    rw [List.append_assoc, run_append] at hLater
    refine ages_run_of_missesBall _ hNone (missed ++ unseen) ?_ later hLater
    intro event hEvent
    rcases List.mem_append.mp hEvent with hMem | hMem
    · exact hMissed event hMem
    · exact hUnseen event hMem

/-- The ball is seen rolling out of the pitch. -/
def eventsWithRollingBall : List (WorldEvent Float) :=
  [.update { cycle := 1, ball := some ⟨⟨50.0, 0.0⟩, ⟨2.5, 0.0⟩⟩ } .ahead]

/-- Two cycles without the ball. -/
def cyclesWithoutBall : List (WorldEvent Float) :=
  [.update { cycle := 2 } .passed, .update { cycle := 3 } .ahead]

theorem rollsInto_run_cyclesWithoutBall :
    (∀ event ∈ cyclesWithoutBall, event.MissesBall) ∧
      ∃ snapshot later : Snapshot Float,
        ((start (Observer.create Side.right WorldConfig.standard none)).run
          eventsWithRollingBall).current = some snapshot ∧
        ((start (Observer.create Side.right WorldConfig.standard none)).run
          (eventsWithRollingBall ++ cyclesWithoutBall)).current = some later ∧
        snapshot.RollsInto (WorldConfig.standard (R := Float)).rules.ballDecay 2 later := by
  have hUnseen : ∀ event ∈ cyclesWithoutBall, event.MissesBall := by
    simp [cyclesWithoutBall, WorldEvent.MissesBall]
  refine ⟨hUnseen, _, _, rfl, rfl, ?_⟩
  obtain ⟨later, hLater, hRolls, -⟩ := rollsInto_run Side.right WorldConfig.standard none
    eventsWithRollingBall _ rfl cyclesWithoutBall hUnseen
  obtain rfl := Option.some.inj hLater
  exact hRolls

end WorldModel

end SoccerWorld
