import SoccerWorld.Codec.Config
import SoccerWorld.Config.Profile
import SoccerWorld.Document.File

/-!
# Loading a configuration

A configuration is read from a file and checked; every failure has a cause and a text.
-/

namespace SoccerWorld

/-- Why a configuration file gives no configuration. -/
inductive ConfigLoadError where
  /-- The file at the path cannot be read. -/
  | file (path : String) (cause : FileError)
  /-- The configuration is unusable. -/
  | config (error : ConfigError Float)

namespace ConfigLoadError

/-- The text of a failure; a file that is not of the right form has none. -/
def message? : ConfigLoadError → Option String
  | file _ .json => none
  | file _ .yaml => none
  | file path .unsupported => some ("Unsupported config format: " ++ path)
  | file _ cause => some ("IO error: " ++ cause.systemMessage)
  | config error => some error.message

end ConfigLoadError

/-- The configuration in the file at a path with the given content. -/
def WorldConfig.load (path : String) (content : Option ByteArray) :
    Except ConfigLoadError (WorldConfig Float) :=
  match DocumentFile.load path content WorldConfig.decode with
  | .error cause => .error (.file path cause)
  | .ok config => config.validate.mapError .config

end SoccerWorld
