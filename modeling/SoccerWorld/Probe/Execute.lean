import SoccerWorld.Config.Load
import SoccerWorld.Probe.Arguments
import SoccerWorld.Probe.Table
import SoccerWorld.Scenario.Load

/-!
# What the probe does

A command is executed on the content of the file that it names.  The outcome is an exit status, the
printed text and, for a failure, an error text.
-/

namespace SoccerWorld
namespace Probe

/-- The outcome of a command. -/
structure Outcome where
  /-- Status with which the probe ends. -/
  exit : UInt8
  /-- What it prints. -/
  output : String := ""
  /-- Why it failed. -/
  error : Option String := none

/-- The outcome for arguments that ask for no command. -/
def misuse : Outcome :=
  { exit := 2 }

/-- The outcome of a command that failed. -/
def failure (reason : String) : Outcome :=
  { exit := 1, error := some ("Error: " ++ reason) }

/-- The outcome of a command that ended the program. -/
def aborted : Outcome :=
  { exit := 134 }

/-- The file that a command reads. -/
def Command.file? : Command → Option String
  | run scenario _ _ _ => some scenario
  | config _ => none

/-- The scenario under a profile, which replaces the scenario's own configuration. -/
def underProfile (scenario : Scenario Float) : Option String → Scenario Float
  | none => scenario
  | some name => { scenario with config := none, profile := some name }

/-- The text of a report in a format. -/
def Format.print : Format → Report Float → String
  | table, report => Probe.table report
  | json, report => Json.pretty 0 report.encode ++ "\n"

/-- The outcome of a command, given the content of the file that it reads. -/
def Command.execute (content : Option ByteArray) : Command → Outcome
  | run path profile format strict =>
      match Scenario.load path content with
      | .error _ => failure ("loading scenario " ++ path)
      | .ok scenario =>
          match (underProfile scenario profile).replay with
          | .error (.replay .outOfMemory) => aborted
          | .error _ => failure ("running scenario " ++ scenario.id)
          | .ok report =>
              { exit := if strict && !report.passed then 1 else 0
                output := format.print report }
  | config profile =>
      match WorldConfig.ofProfile profile with
      | .error error => failure (ConfigError.message error)
      | .ok chosen => { exit := 0, output := Json.pretty 0 chosen.encode ++ "\n" }

end Probe
end SoccerWorld
