import SoccerWorld.Codec.Tracking
import SoccerWorld.Snapshot.Basic

/-!
# Snapshots in documents

The object of a snapshot, with the summary of its trajectory in the trajectory's place.
-/

namespace SoccerWorld

/-- The word of a trajectory's end. -/
def TrajectoryEnd.word : TrajectoryEnd → String
  | stopped => "stopped"
  | outOfBounds => "out_of_bounds"
  | stepLimit => "step_limit"

/-- The word of a kind of touch. -/
def TouchKind.word : TouchKind → String
  | kick => "kick"
  | tackle => "tackle"

/-- The object of a touch. -/
def Touch.encode (touch : Touch Float) : Value :=
  .object
    [("player", .ofNat touch.player), ("side", touch.side.encode), ("unum", touch.unum.encode),
      ("kind", .text touch.kind.word), ("prev_dist", .ofFloat touch.prevDist),
      ("curr_dist", .ofFloat touch.currDist)]

/-- Length, end and last position of a trajectory. -/
def Trajectory.encodeSummary (trajectory : Trajectory Float) : Value :=
  .object
    [("len", .ofNat trajectory.size), ("end", .text trajectory.ending.word),
      ("last", trajectory.last.encode)]

namespace TeamSlots

/-- The list of the eleven slots. -/
def encode (slots : TeamSlots) : Value :=
  .ofList (fun unum => .ofOption .ofNat (slots unum)) Unum.all

end TeamSlots

namespace Snapshot

/-- The fields of a snapshot. -/
def encodeFields (snapshot : Snapshot Float) : List (String × Value) :=
  [("cycle", .ofWord32 snapshot.cycle),
    ("perspective", snapshot.perspective.encode),
    ("self_unum", .ofOption Unum.encode snapshot.selfUnum),
    ("play_mode", snapshot.playMode.encode),
    ("ball", snapshot.ball.encode),
    ("ball_trajectory", snapshot.trajectory.encodeSummary),
    ("players", .ofList Player.encode snapshot.players),
    ("teammate_slots", TeamSlots.encode snapshot.teammateSlots),
    ("opponent_slots", TeamSlots.encode snapshot.opponentSlots),
    ("teammates_by_reach", .ofList .ofNat snapshot.teammatesByReach),
    ("opponents_by_reach", .ofList .ofNat snapshot.opponentsByReach),
    ("our_offside_line_x", .ofFloat snapshot.ourOffsideLine),
    ("their_offside_line_x", .ofFloat snapshot.theirOffsideLine),
    ("kicker", .ofOption .ofNat snapshot.attribution.kicker),
    ("kicker_side", .ofOption Side.encode snapshot.attribution.kickerSide),
    ("kicker_candidates", .ofList Touch.encode snapshot.attribution.candidates),
    ("fastest_intercept_player", .ofOption .ofNat snapshot.fastestPlayer),
    ("fastest_intercept_teammate", .ofOption .ofNat snapshot.fastestTeammate),
    ("fastest_intercept_opponent", .ofOption .ofNat snapshot.fastestOpponent),
    ("diagnostics", .ofList RecordFault.encode snapshot.diagnostics)]

end Snapshot

end SoccerWorld
