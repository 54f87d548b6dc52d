/-!
# Arguments of the probe

The probe has two commands, each with long options.  An option with a value takes it after an equals
sign or from the next argument; no option may occur twice.  A bare `--` may close the list.
-/

namespace SoccerWorld
namespace Probe

/-- How a report is printed. -/
inductive Format where
  | table
  | json
deriving DecidableEq, Repr

/-- What the probe is asked to do. -/
inductive Command where
  /-- Replay a scenario file and print its report. -/
  | run (scenario : String) (profile : Option String) (format : Format) (strict : Bool)
  /-- Print the configuration of a profile. -/
  | config (profile : String)
deriving DecidableEq, Repr

/-- The options that a command knows. -/
structure OptionTable where
  /-- Names of the options with a value. -/
  valued : List String
  /-- Names of the options without one. -/
  flags : List String

/-- Options with their values, in the order in which they were given; a flag has the empty value. -/
abbrev Options := List (String × String)

/-- An argument that can be the value of an option before it. -/
def isValue (argument : String) : Bool :=
  argument = "-" || argument.toList.head? ≠ some '-'

/-- The name and the value of an argument `--name=value`, or the name alone. -/
def splitOption? (argument : String) : Option (String × Option String) :=
  match argument.toList with
  | '-' :: '-' :: cs =>
      let name := String.ofList (cs.takeWhile fun c => c ≠ '=')
      match cs.dropWhile fun c => c ≠ '=' with
      | _ :: value => some (name, some (String.ofList value))
      | [] => some (name, none)
  | _ => none

/-- The options in a list of arguments, if it holds nothing else and no option twice. -/
def readOptions (table : OptionTable) (given : Options) : List String → Option Options
  | [] => some given
  | ["--"] => some given
  | argument :: rest =>
      match splitOption? argument with
      | none => none
      | some (name, value) =>
          if (given.lookup name).isSome then none
          else if table.flags.contains name then
            match value with
            | none => readOptions table ((name, "") :: given) rest
            | some _ => none
          else if table.valued.contains name then
            match value, rest with
            | some value, rest => readOptions table ((name, value) :: given) rest
            | none, value :: rest =>
                if isValue value then readOptions table ((name, value) :: given) rest else none
            | none, [] => none
          else none

/-- The format of a name. -/
def Format.ofName? (name : String) : Option Format :=
  if name = "table" then some table else if name = "json" then some json else none

/-- The options of the command that replays a scenario. -/
def runOptions : OptionTable :=
  ⟨["scenario", "profile", "format"], ["strict"]⟩

/-- The options of the command that prints a configuration. -/
def configOptions : OptionTable :=
  ⟨["profile"], []⟩

/-- The command that the arguments ask for. -/
def Command.ofArguments? : List String → Option Command
  | "run" :: rest => do
      let options ← readOptions runOptions [] rest
      let scenario ← options.lookup "scenario"
      let format ← Format.ofName? ((options.lookup "format").getD "table")
      if scenario.isEmpty then none
      else pure (run scenario (options.lookup "profile") format (options.lookup "strict").isSome)
  | "config" :: rest => do
      let options ← readOptions configOptions [] rest
      pure (config ((options.lookup "profile").getD "standard"))
  | _ => none

end Probe
end SoccerWorld
