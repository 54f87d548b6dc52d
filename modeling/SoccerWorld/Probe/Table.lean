import SoccerWorld.Codec.Scenario

/-!
# Reports as tables

The text of a report for readers: for each cycle the ball, a table of the players in the order in
which they reach the ball, and what was found out about the cycle; then the expected facts that do
not hold.
-/

namespace SoccerWorld
namespace Probe

/-- A text filled up with blanks on the right. -/
def padRight (width : Nat) (s : String) : String :=
  s ++ String.ofList (List.replicate (width - s.length) ' ')

/-- A text filled up with blanks on the left. -/
def padLeft (width : Nat) (s : String) : String :=
  String.ofList (List.replicate (width - s.length) ' ') ++ s

/-- A number with two places. -/
def places2 (x : Float) : String :=
  DecimalText.fixed 2 x

/-- A point in parentheses, with two places. -/
def point (v : Vec2 Float) : String :=
  "(" ++ places2 v.x ++ ", " ++ places2 v.y ++ ")"

/-- The columns of the player table, aligned. -/
def tableLine (side unum goalie position reach : String) : String :=
  "   " ++ padRight 6 side ++ " " ++ padLeft 4 unum ++ " " ++ padLeft 3 goalie ++ " " ++
    padLeft 16 position ++ " " ++ padLeft 6 reach

/-- The line of one player. -/
def rowLine (row : ReachRow Float) : String :=
  tableLine row.side.name
    (match row.unum with
      | some unum => toString unum.number
      | none => "?")
    (if row.isGoalie then "G" else "") (point row.position)
    (match row.reachStep with
      | some step => toString step.toNat
      | none => "-")

/-- The name of an optional player. -/
def playerName : Option NamedPlayer → String
  | none => "-"
  | some player => player.side.name ++ " #" ++ toString player.unum.toNat

/-- The name of an optional side. -/
def sideName : Option Side → String
  | none => "None"
  | some side => "Some(" ++ side.name ++ ")"

/-- The kicker of a cycle, or the number of candidates on both sides. -/
def kickerName (report : CycleReport Float) : String :=
  if report.kickerAmbiguous then
    "ambiguous (" ++ toString report.kickerCandidates ++ " candidates)"
  else playerName report.kicker

/-- The lines of one cycle. -/
def cycleLines (report : CycleReport Float) : List String :=
  ["", "── cycle " ++ toString report.cycle.toNat ++ " ── ball " ++ point report.ballPosition,
      tableLine "side" "unum" "gk" "position" "reach"] ++
    report.reachTable.map rowLine ++
    ["   fastest: all " ++ playerName report.fastestPlayer ++ " / ours " ++
        playerName report.fastestTeammate ++ " / theirs " ++ playerName report.fastestOpponent,
      "   kicker: " ++ kickerName report ++ " (side " ++ sideName report.kickerSide ++ ")",
      "   offside lines: ours " ++ places2 report.ourOffsideLine ++ " / theirs " ++
        places2 report.theirOffsideLine] ++
    report.dropped.map fun fault => "   dropped: " ++ fault.message

/-- The lines about the expected facts. -/
def outcomeLines (report : Report Float) : List String :=
  if report.passed then ["", "✅ All assertions passed"]
  else
    ["", "❌ " ++ toString report.failures.length ++ " assertion(s) failed"] ++
      report.failures.map fun failure => "   - " ++ failure.message

/-- The text of lines, each ended. -/
def unlines (lines : List String) : String :=
  String.join (lines.map fun line => line ++ "\n")

/-- The text of a report. -/
def table (report : Report Float) : String :=
  unlines
    (("Scenario: " ++ report.id) :: (report.cycles.flatMap cycleLines ++ outcomeLines report))

end Probe
end SoccerWorld
