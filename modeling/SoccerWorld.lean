import SoccerWorld.Codec.Snapshot
import SoccerWorld.Main
import SoccerWorld.Proofs.Ball.Continuation
import SoccerWorld.Proofs.Ball.RollingLine
import SoccerWorld.Proofs.Geometry.ExactAngle
import SoccerWorld.Proofs.Geometry.ExactVector
import SoccerWorld.Proofs.Intercept.Approach
import SoccerWorld.Proofs.Intercept.Confidence
import SoccerWorld.Proofs.Intercept.DistanceOrder
import SoccerWorld.Proofs.Intercept.Drift
import SoccerWorld.Proofs.Intercept.FeasibleStep
import SoccerWorld.Proofs.Intercept.Pruning
import SoccerWorld.Proofs.Intercept.TurnOrder
import SoccerWorld.Proofs.Intercept.TypeOrder
import SoccerWorld.Proofs.Intercept.WindowAgreement
import SoccerWorld.Proofs.Locomotion.DashCount
import SoccerWorld.Proofs.Locomotion.DashOrder
import SoccerWorld.Proofs.Locomotion.Inertia
import SoccerWorld.Proofs.Numeric.Sorting
import SoccerWorld.Proofs.Snapshot.Acceptance
import SoccerWorld.Proofs.Snapshot.Coherence
import SoccerWorld.Proofs.Snapshot.SwapSides
import SoccerWorld.Proofs.Snapshot.Tracking
import SoccerWorld.Proofs.Snapshot.Untimed
import SoccerWorld.Proofs.Tactics.Attribution
import SoccerWorld.Proofs.Tactics.LastTouch
import SoccerWorld.Proofs.Tactics.Offside
import SoccerWorld.Proofs.Tactics.ReachOrder
import SoccerWorld.Proofs.World.Conservation
import SoccerWorld.Proofs.World.Deadlines
import SoccerWorld.Proofs.World.IdentityTrack
import SoccerWorld.Proofs.World.Independence
import SoccerWorld.Proofs.World.Invariant
import SoccerWorld.Proofs.World.LastTouch
import SoccerWorld.Proofs.World.LastWriter
import SoccerWorld.Proofs.World.Life
import SoccerWorld.Proofs.World.Lifetime
import SoccerWorld.Proofs.World.Mirror
import SoccerWorld.Proofs.World.Ranking
import SoccerWorld.Proofs.World.RollingBall
import SoccerWorld.Proofs.World.Runs
import SoccerWorld.Proofs.World.Sideless
import SoccerWorld.Proofs.World.Sightings
import SoccerWorld.Proofs.World.Streaks
import SoccerWorld.Proofs.Snapshot.Rearrangement
import SoccerWorld.Proofs.World.Arrangement
import SoccerWorld.Proofs.Numeric.Doubles
import SoccerWorld.Proofs.Numeric.Laws
import SoccerWorld.Proofs.Scenario.Replay
import SoccerWorld.Proofs.Scenario.Verdict
import SoccerWorld.Proofs.Scenario.SimulatorFrame
import SoccerWorld.Proofs.Codec.Match
import SoccerWorld.Proofs.Codec.Config
import SoccerWorld.Proofs.Codec.Observation
import SoccerWorld.Proofs.Codec.Scenario
import SoccerWorld.Proofs.World.Lockout
import SoccerWorld.Proofs.Ball.TrajectoryShape
import SoccerWorld.Proofs.Locomotion.DashSimulation
import SoccerWorld.Proofs.Locomotion.InertiaSteps
import SoccerWorld.Proofs.World.Coasting
import SoccerWorld.Proofs.Tactics.UnevaluatedOrder
import SoccerWorld.Proofs.Geometry.Circle
import SoccerWorld.Proofs.Intercept.TurnLoop
import SoccerWorld.Proofs.Numeric.Places
import SoccerWorld.Proofs.Numeric.FiniteLine
import SoccerWorld.Proofs.Tactics.SecondDefender
import SoccerWorld.Proofs.World.OffsideLines
