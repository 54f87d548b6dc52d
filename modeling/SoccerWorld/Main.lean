import SoccerWorld.Probe.Execute

/-!
# The probe as a program

Reads the file that the command names, executes the command and prints its outcome.
-/

open SoccerWorld

/-- The content of a file, if it can be read. -/
def readContent (path : String) : IO (Option ByteArray) := do
  try
    let content ← IO.FS.readBinFile path
    pure (some content)
  catch _ => pure none

/-- Replays a scenario, or prints a configuration. -/
def main (arguments : List String) : IO UInt32 := do
  match Probe.Command.ofArguments? arguments with
  | none =>
      IO.eprintln "usage: run --scenario FILE [--profile NAME] [--format table|json] [--strict]"
      IO.eprintln "       config [--profile NAME]"
      pure Probe.misuse.exit.toUInt32
  | some command =>
      let content ←
        match command.file? with
        | some path => readContent path
        | none => pure none
      let outcome := command.execute content
      IO.print outcome.output
      match outcome.error with
      | some reason => IO.eprintln reason
      | none => pure ()
      pure outcome.exit.toUInt32
