import SoccerWorld.Codec.Scenario
import SoccerWorld.Scenario.Replay

/-!
# Loading a scenario

A scenario is read from a file and replayed; every failure has a cause and a text.
-/

namespace SoccerWorld

/-- Why a scenario file gives no report. -/
inductive ScenarioError where
  /-- The file at the path cannot be read. -/
  | file (path : String) (cause : FileError)
  /-- The scenario is not replayed to its end. -/
  | replay (error : ReplayError Float)

namespace ScenarioError

/-- The text of a failure; a file that is not of the right form has none, nor has the end of the
program. -/
def message? : ScenarioError → Option String
  | file _ .json => none
  | file _ .yaml => none
  | file path .unsupported => some ("Unsupported scenario format: " ++ path)
  | file path cause => some ("Failed to read scenario " ++ path ++ ": " ++ cause.systemMessage)
  | replay (.config cause) => some ("Scenario config: " ++ cause.message)
  | replay .outOfMemory => none

end ScenarioError

namespace Scenario

/-- The scenario in the file at a path with the given content. -/
def load (path : String) (content : Option ByteArray) :
    Except ScenarioError (Scenario Float) :=
  (DocumentFile.load path content decode).mapError (.file path)

/-- The report on a scenario. -/
def replay (scenario : Scenario Float) : Except ScenarioError (Report Float) :=
  scenario.run.mapError .replay

end Scenario

end SoccerWorld
