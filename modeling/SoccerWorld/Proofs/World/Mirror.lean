import SoccerWorld.Proofs.Geometry.ExactAngle
import SoccerWorld.Proofs.Snapshot.Evaluation
import SoccerWorld.Proofs.Snapshot.SwapSides
import SoccerWorld.Proofs.Snapshot.Tracking
import SoccerWorld.Proofs.Tactics.ReachOrder
import SoccerWorld.Proofs.World.Runs

/-!
# A match and its mirror image

`WorldEvent.mirror` turns the pitch by half a turn in the simulator's frame and exchanges the sides.
The right side's view of the mirror image is the left side's view of the match.

Reading a mirrored record from the other side restores every position and direction
(`PlayerObservation.turn_mirror`); this is where arithmetic must be exact.  From there on all is in
the canonical frame, where only the names of the sides differ.  One build commutes with the exchange
of names (`Observer.build_mirror`), hence so does a run (`WorldModel.trace_mirror`).
-/

namespace SoccerWorld

/-! ## The mirror image of what is observed -/

section Mirror

variable {R : Type} [Scalar R]

/-- The ball of the mirror image. -/
def BallObservation.mirror (seen : BallObservation R) : BallObservation R :=
  ⟨-seen.position, -seen.velocity⟩

/-- The record of the mirror image: the other side, every vector negated, every direction
reversed. -/
def PlayerObservation.mirror (record : PlayerObservation R) : PlayerObservation R :=
  { record with
    side := record.side.opposite
    position := -record.position
    velocity := record.velocity.map fun velocity => -velocity
    body := record.body.map Angle.reversed
    face := record.face.map Angle.reversed
    pointing := record.pointing.map Angle.reversed }

/-- The observation of the mirror image. -/
def CycleObservation.mirror (observation : CycleObservation R) : CycleObservation R :=
  { observation with
    playMode := observation.playMode.swapSides
    ball := observation.ball.map BallObservation.mirror
    players := observation.players.map PlayerObservation.mirror }

/-- The event of the mirror image. -/
def WorldEvent.mirror : WorldEvent R → WorldEvent R
  | update observation deadline => update observation.mirror deadline
  | reset => reset

/-- The world model on the other side that holds the same snapshot under exchanged names. -/
def WorldModel.swapSides (model : WorldModel R) : WorldModel R :=
  ⟨model.observer.swapSides, model.current.map Snapshot.swapSides⟩

end Mirror

/-! ## Both views of one record -/

theorem Vec2.neg_neg_self (v : Vec2 ℝ) : -(-v) = v := by
  obtain ⟨x, y⟩ := v
  show (⟨-(-x), -(-y)⟩ : Vec2 ℝ) = ⟨x, y⟩
  rw [neg_neg, neg_neg]

namespace Perspective

variable {view : Perspective}

/-- From the other side a negated vector looks as the vector itself did. -/
theorem turnVector_neg (hSide : view.ourSide.isAssigned = true) (v : Vec2 ℝ) :
    view.swapSides.turnVector (-v) = view.turnVector v := by
  obtain ⟨side⟩ := view
  cases side with
  | left => exact v.neg_neg_self
  | right => rfl
  | neutral => contradiction

/-- From the other side a reversed direction looks as the direction itself did. -/
theorem turnAngle_reversed (hSide : view.ourSide.isAssigned = true) (a : Angle ℝ) :
    view.swapSides.turnAngle a.reversed = view.turnAngle a := by
  obtain ⟨side⟩ := view
  cases side with
  | left => exact a.reversed_reversed
  | right => rfl
  | neutral => contradiction

end Perspective

section Views

variable {view : Perspective} (hSide : view.ourSide.isAssigned = true)

include hSide

/-- From the other side a mirrored record shows the same player under the other side's name. -/
theorem PlayerObservation.turn_mirror (record : PlayerObservation ℝ) :
    record.mirror.turn view.swapSides = (record.turn view).swapSides := by
  have hVector : ∀ v : Option (Vec2 ℝ),
      (v.map fun v => -v).map view.swapSides.turnVector = v.map view.turnVector := by
    intro v
    rw [Option.map_map]
    exact Option.map_congr fun v _ => Perspective.turnVector_neg hSide v
  have hAngle : ∀ a : Option (Angle ℝ),
      (a.map Angle.reversed).map view.swapSides.turnAngle = a.map view.turnAngle := by
    intro a
    rw [Option.map_map]
    exact Option.map_congr fun a _ => Perspective.turnAngle_reversed hSide a
  unfold turn mirror swapSides
  dsimp only
  rw [Perspective.turnVector_neg hSide, hVector, hAngle, hAngle, hAngle]

theorem Tracking.ball_mirror (decay : ℝ) (previous : Option (Snapshot ℝ))
    (observed : Option (BallObservation ℝ)) :
    ball decay view.swapSides (previous.map Snapshot.swapSides)
        (observed.map BallObservation.mirror) =
      ball decay view previous observed := by
  cases observed with
  | none => cases previous <;> rfl
  | some seen =>
      show Ball.observed ⟨view.swapSides.turnVector (-seen.position),
        view.swapSides.turnVector (-seen.velocity)⟩ = _
      rw [Perspective.turnVector_neg hSide, Perspective.turnVector_neg hSide]
      rfl

theorem Tracking.players_mirror (types : TypeRegistry ℝ) (maxUnseen : UInt32)
    (previous : Option (Snapshot ℝ)) (accepted : List (AcceptedRecord ℝ)) :
    players types maxUnseen view.swapSides (previous.map Snapshot.swapSides)
        (accepted.map fun entry => ⟨entry.unum, entry.record.mirror⟩) =
      (players types maxUnseen view previous accepted).map Player.swapSides := by
  have hSeen : (accepted.map fun entry =>
      (⟨entry.unum, entry.record.mirror⟩ : AcceptedRecord ℝ)).filterMap
        AcceptedRecord.identity? =
      (accepted.filterMap AcceptedRecord.identity?).map Identity.swapSides := by
    rw [List.filterMap_map, List.map_filterMap]
    refine List.filterMap_congr fun entry _ => ?_
    show (entry.unum.map fun unum => _) = (entry.unum.map fun unum => _).map _
    rw [Option.map_map]
    rfl
  unfold players
  dsimp only
  rw [hSeen, List.map_append, List.map_map, List.map_map]
  congr 1
  · refine List.map_congr_left fun entry _ => ?_
    show enlist _ ⟨entry.unum, entry.record.mirror.turn view.swapSides⟩ = _
    rw [PlayerObservation.turn_mirror hSide]
    exact enlist_swapSides previous entry.unum (entry.record.turn view)
  · cases previous with
    | none => rfl
    | some snapshot => exact carryUnseen_swapSides types maxUnseen _ snapshot.players

end Views

/-! ## Both views of one cycle -/

namespace Observer

variable {R : Type} [Scalar R] (observer : Observer R)

/-- A player's reach step depends on whether it is one of ours, not on the name of its side. -/
theorem evaluate_swapSides (inTime : Bool) (trajectory : Trajectory R) (player : Player R) :
    observer.swapSides.evaluate inTime trajectory player.swapSides =
      (observer.evaluate inTime trajectory player).swapSides := by
  have hTeam : decide (player.side.opposite = observer.perspective.ourSide.opposite) =
      decide (player.side = observer.perspective.ourSide) :=
    decide_eq_decide.mpr Side.opposite_inj
  have hKinematics : Kinematics.ofPlayer player.swapSides
      observer.swapSides.perspective.ourSide observer.config.rules observer.config.search =
      Kinematics.ofPlayer player observer.perspective.ourSide observer.config.rules
        observer.config.search := by
    show Kinematics.mk _ _ _ _ _ _
      (decide (player.side.opposite = observer.perspective.ourSide.opposite)) = _
    rw [hTeam]
    rfl
  have hReach : observer.swapSides.reachStep trajectory player.swapSides =
      observer.reachStep trajectory player := by
    show observer.predictor.bestStep (Kinematics.ofPlayer player.swapSides
      observer.swapSides.perspective.ourSide observer.config.rules observer.config.search)
        trajectory player.isGoalie = _
    rw [hKinematics]
    rfl
  cases inTime with
  | false => rfl
  | true =>
      show { player.swapSides with
        reachStep := some (observer.swapSides.reachStep trajectory player.swapSides) } = _
      rw [hReach]
      rfl

theorem evaluateAll_swapSides (deadline : Deadline) (trajectory : Trajectory R)
    (players : List (Player R)) :
    observer.swapSides.evaluateAll deadline trajectory (players.map Player.swapSides) =
      (observer.evaluateAll deadline trajectory players).map Player.swapSides := by
  rw [evaluateAll_eq_mapIdx, evaluateAll_eq_mapIdx]
  refine List.ext_getElem? fun place => ?_
  rw [List.getElem?_mapIdx, List.getElem?_map, List.getElem?_map, List.getElem?_mapIdx,
    Option.map_map, Option.map_map]
  exact Option.map_congr fun player _ => observer.evaluate_swapSides _ trajectory player

/-- What follows from tracked ball and players exchanges the sides when the players do. -/
theorem assemble_swapSides (observation : CycleObservation R) (previous : Option (Snapshot R))
    (deadline : Deadline) (ball : Ball R) (tracked : List (Player R))
    (diagnostics : List RecordFault) (trajectory : Trajectory R) :
    observer.swapSides.assemble observation.mirror (previous.map Snapshot.swapSides) deadline ball
        (tracked.map Player.swapSides) (diagnostics.map RecordFault.swapSides) trajectory =
      (observer.assemble observation previous deadline ball tracked diagnostics
        trajectory).swapSides := by
  -- Teams are told apart by comparison with our side, and both sides of it are exchanged.
  have hOurs : ∀ side : Side, decide (side.opposite = observer.swapSides.perspective.ourSide) =
      decide (side = observer.perspective.ourSide) :=
    fun side => decide_eq_decide.mpr Side.opposite_inj
  have hTheirs : ∀ side : Side,
      (!decide (side.opposite = observer.swapSides.perspective.ourSide)) =
        !decide (side = observer.perspective.ourSide) :=
    fun side => congrArg _ (hOurs side)
  unfold assemble Snapshot.swapSides
  dsimp only
  rw [evaluateAll_swapSides,
    sortByReach_map Player.reachStep Player.reachStep Player.swapSides fun _ => rfl]
  rw [teamEntries_swapSides hOurs, teamEntries_swapSides hTheirs, teamLine_swapSides hOurs,
    teamLine_swapSides hTheirs, firstEvaluated_swapSides, firstEvaluated_swapSides,
    firstEvaluated_swapSides]
  congr 1
  exact TouchRules.attribution_swapSides _ _ ball observation.playMode previous

/-- From the other side the mirrored cycle shows the same snapshot under exchanged names. -/
theorem build_mirror (observer : Observer ℝ)
    (hSide : observer.perspective.ourSide.isAssigned = true) (observation : CycleObservation ℝ)
    (previous : Option (Snapshot ℝ)) (deadline : Deadline) :
    observer.swapSides.build observation.mirror (previous.map Snapshot.swapSides) deadline =
      (observer.build observation previous deadline).swapSides := by
  have hSift : PlayerObservation.sift [] observation.mirror.players =
      ((PlayerObservation.sift [] observation.players).1.map fun entry =>
          ⟨entry.unum, entry.record.mirror⟩,
        (PlayerObservation.sift [] observation.players).2.map RecordFault.swapSides) :=
    PlayerObservation.sift_map_of_opposite (f := PlayerObservation.mirror) (fun _ => rfl)
      (fun _ => rfl) [] observation.players
  have hBall := Tracking.ball_mirror hSide observer.config.rules.ballDecay previous
    observation.ball
  have hPlayers := Tracking.players_mirror hSide observer.types observer.config.maxUnseenCycles
    previous (PlayerObservation.sift [] observation.players).1
  unfold build buildAlong trackedBall tracked
  rw [hSift]
  dsimp only
  rw [← assemble_swapSides, ← hPlayers, ← hBall]
  rfl

end Observer

/-! ## Both views of a run -/

namespace WorldModel

theorem step_mirror (model : WorldModel ℝ)
    (hSide : model.observer.perspective.ourSide.isAssigned = true) (event : WorldEvent ℝ) :
    model.swapSides.step event.mirror = (model.step event).swapSides := by
  cases event with
  | reset => rfl
  | update observation deadline =>
      have hBuild := model.observer.build_mirror hSide observation model.current deadline
      show WorldModel.mk model.observer.swapSides (some (model.observer.swapSides.build
        observation.mirror (model.current.map Snapshot.swapSides) deadline)) = _
      rw [hBuild]
      rfl

/-- Along a mirrored run the world model on the other side holds the same snapshots under exchanged
names, event by event. -/
theorem trace_mirror (model : WorldModel ℝ)
    (hSide : model.observer.perspective.ourSide.isAssigned = true)
    (events : List (WorldEvent ℝ)) :
    model.swapSides.trace (events.map WorldEvent.mirror) =
      (model.trace events).map swapSides := by
  induction events generalizing model with
  | nil => rfl
  | cons event events ih =>
      have hNext : (model.step event).observer.perspective.ourSide.isAssigned = true := by
        rw [observer_step]
        exact hSide
      rw [List.map_cons, trace, trace, step_mirror model hSide, ih _ hNext, List.map_cons]

/-- The right side's view of a mirrored match is the left side's view of the match: after every
event the same snapshot, but for the names of the sides. -/
theorem current_trace_right_mirror (config : WorldConfig ℝ) (selfUnum : Option Nat)
    (events : List (WorldEvent ℝ)) :
    ((start (Observer.create Side.right config selfUnum)).trace
        (events.map WorldEvent.mirror)).map current =
      ((start (Observer.create Side.left config selfUnum)).trace events).map
        fun model => model.current.map Snapshot.swapSides := by
  have hTrace := trace_mirror (start (Observer.create Side.left config selfUnum)) rfl events
  have hCurrent := congrArg (List.map current) hTrace
  rw [List.map_map] at hCurrent
  exact hCurrent

end WorldModel

end SoccerWorld
