import SoccerWorld.Scenario.Report
import SoccerWorld.World.Model

/-!
# Replaying a scenario

The observations of a scenario are fed to a new world model; each update gives one cycle report,
and every expectation with the report's cycle number is checked against it.  An expectation whose
number no observation has is a failure too.
-/

namespace SoccerWorld

/-- Why a replay gives no report. -/
inductive ReplayError (R : Type) [Scalar R] where
  /-- The scenario's configuration is unusable. -/
  | config (cause : ConfigError R)
  /-- The configuration allows trajectories for which no memory can be allocated.  That is no error
  which the program reports; it is the end of the program. -/
  | outOfMemory

namespace Scenario

variable {R : Type} [Scalar R]

/-- The world model of the scenario's agent under a configuration. -/
def model (scenario : Scenario R) (config : WorldConfig R) : WorldModel R :=
  WorldModel.start
    (Observer.create scenario.ourSide config (scenario.selfUnum.map UInt8.toNat))

/-- The snapshots that a list of observations leads to, as far as memory can be allocated. -/
def snapshots? (model : WorldModel R) : List (CycleObservation R) → Option (List (Snapshot R))
  | [] => some []
  | observation :: rest => do
      let snapshot ← model.observer.build? observation model.current .ahead
      let later ← snapshots? { model with current := some snapshot } rest
      pure (snapshot :: later)

/-- The facts that do not hold in a cycle report. -/
def failuresIn (scenario : Scenario R) (report : CycleReport R) : List (Failure R) :=
  (scenario.expectations.filter fun expectation => expectation.cycle = report.cycle).flatMap
    fun expectation => expectation.check report

/-- The expectations that are about no observation. -/
def unmatched (scenario : Scenario R) : List (Failure R) :=
  (scenario.expectations.filter fun expectation =>
    !scenario.cycles.any fun observation => observation.cycle = expectation.cycle).map
      fun expectation => .unmatched expectation.cycle

/-- The report on the scenario, given the snapshots of its cycles. -/
def report (scenario : Scenario R) (snapshots : List (Snapshot R)) : Report R :=
  let cycles := snapshots.map CycleReport.ofSnapshot
  { id := scenario.id
    cycles := cycles
    failures := cycles.flatMap scenario.failuresIn ++ scenario.unmatched }

/-- The report on the scenario, if its configuration is usable and memory can be allocated. -/
def run (scenario : Scenario R) : Except (ReplayError R) (Report R) :=
  match scenario.resolveConfig with
  | .error cause => .error (.config cause)
  | .ok config =>
      match snapshots? (scenario.model config) scenario.cycles with
      | none => .error .outOfMemory
      | some snapshots => .ok (scenario.report snapshots)

end Scenario
end SoccerWorld
