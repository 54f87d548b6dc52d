import SoccerWorld.Document.Json
import SoccerWorld.Document.Yaml

/-!
# Document files

A file is read as JSON or YAML by the extension of its name.  It must be there and be a text before
the extension is looked at.  What is nested too deeply can be skipped but not read.
-/

namespace SoccerWorld

/-- Why a file gives no value. -/
inductive FileError where
  /-- There is no such file. -/
  | missing
  /-- The bytes of the file are no text. -/
  | notText
  /-- The extension names no known format. -/
  | unsupported
  /-- The text is not of the form that was asked for, in JSON. -/
  | json
  /-- The text is not of the form that was asked for, in YAML. -/
  | yaml
deriving DecidableEq, Repr

namespace FileError

/-- What the system says of a file that cannot be read. -/
def systemMessage : FileError → String
  | missing => "No such file or directory (os error 2)"
  | _ => "stream did not contain valid UTF-8"

end FileError

namespace DocumentFile

/-- The last component of a path; slashes at the end do not count. -/
def fileName (path : List Char) : List Char :=
  let cs := path.reverse.dropWhile fun c => c = '/'
  (cs.takeWhile fun c => c ≠ '/').reverse

/-- The part of a file name after its last point, if there is something before that point. -/
def extension? (path : String) : Option String :=
  let name := fileName path.toList
  let after := (name.reverse.takeWhile fun c => c ≠ '.').reverse
  if name = ['.', '.'] then none
  else if name.length ≤ after.length + 1 then none
  else some (String.ofList after)

/-- Levels of lists and objects that are read from a JSON text. -/
def jsonLevels : Nat :=
  127

/-- Levels of lists and mappings that are read from a YAML text. -/
def yamlLevels : Nat :=
  128

/-- What is read from the file at a path with the given content. -/
def load {α : Type} (path : String) (content : Option ByteArray) (decode : Value → Option α) :
    Except FileError α :=
  match content with
  | none => .error .missing
  | some bytes =>
      match String.fromUTF8? bytes with
      | none => .error .notText
      | some text =>
          match extension? path with
          | some "json" =>
              match ((Json.read? text).map (Value.limit jsonLevels)).bind decode with
              | some a => .ok a
              | none => .error .json
          | some "yaml" | some "yml" =>
              match ((Yaml.read? text).map (Value.limit yamlLevels)).bind decode with
              | some a => .ok a
              | none => .error .yaml
          | _ => .error .unsupported

end DocumentFile

end SoccerWorld
