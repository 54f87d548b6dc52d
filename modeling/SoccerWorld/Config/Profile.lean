import SoccerWorld.Config.Basic
import SoccerWorld.Numeric.DecimalText
import SoccerWorld.Text.Blank
import SoccerWorld.Text.LowerCase

/-!
# Named configurations and configuration errors

A profile is a configuration with a name.  Names are compared in lower case and without blanks
around them.
-/

namespace SoccerWorld

/-- Why there is no usable configuration. -/
inductive ConfigError (R : Type) where
  /-- No profile has this name. -/
  | unknownProfile (name : String)
  /-- A parameter is unusable. -/
  | invalidParameter (fault : ParameterFault R)

/-- The text of an unusable parameter. -/
def ParameterFault.message : ParameterFault Float → String
  | ballDecay value =>
      "Invalid parameter server.ball_decay: " ++ DecimalText.message value ++ " not in [0, 1)"
  | noSteps => "Invalid parameter trajectory.max_steps: must be at least 1"
  | stepsCrossed minSteps maxSteps =>
      "Invalid parameter trajectory.min_steps: " ++ toString minSteps ++ " exceeds max_steps " ++
        toString maxSteps
  | playerDecay typeId value =>
      "Invalid parameter player_types.decay: type " ++ toString typeId ++ ": " ++
        DecimalText.message value ++ " not in [0, 1)"

/-- The text of a configuration error. -/
def ConfigError.message : ConfigError Float → String
  | unknownProfile name => "Unknown config profile: " ++ name
  | invalidParameter fault => fault.message

namespace WorldConfig

variable {R : Type} [Scalar R]

/-- A profile name in the form in which names are compared. -/
def profileKey (name : String) : String :=
  String.ofList (Text.lower (Text.trim name.toList))

/-- The configuration of a profile. -/
def ofProfile (name : String) : Except (ConfigError R) (WorldConfig R) :=
  let key := profileKey name
  if ["", "standard", "default"].contains key then .ok standard
  else if ["keepaway", "keep_away"].contains key then .ok keepAway
  else if key = "parallel" then .ok parallel
  else .error (.unknownProfile key)

/-- The configuration of a profile that may be missing or unknown: an ordinary match then. -/
def ofProfileOrStandard (name : Option String) : WorldConfig R :=
  match ofProfile (name.getD "") with
  | .ok config => config
  | .error _ => standard

/-- The configuration itself, if all its parameters are usable. -/
def validate (config : WorldConfig R) : Except (ConfigError R) (WorldConfig R) :=
  match config.fault? with
  | some fault => .error (.invalidParameter fault)
  | none => .ok config

end WorldConfig

end SoccerWorld
