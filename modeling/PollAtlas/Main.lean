import PollAtlas.Command.Run

/-!
# The program

Reads the settings and files that a command line may need, runs the command, writes the
file that it leaves behind, and prints its answer.
-/

namespace PollAtlas.Program

open PollAtlas.Command

/-- The text of a file, if it can be read and is one. -/
def readText? (path : String) : IO (Option String) := do
  try return String.fromUTF8? (← IO.FS.readBinFile path)
  catch _ => return none

/-- The settings that are held in variables. -/
def readSettings : IO (List (String × String)) :=
  [Service.baseVariable, Service.boundariesVariable].filterMapM fun name => do
    return (← IO.getEnv name).map (name, ·)

/-- The files that can be read. -/
def readFiles (paths : List String) : IO (List (String × String)) :=
  paths.filterMapM fun path => do
    return (← readText? path).map (path, ·)

/-- A text is written to a file; whether it could be. -/
def writeText (path text : String) : IO Bool := do
  try
    IO.FS.writeFile path text
    return true
  catch _ => return false

/-- A command that failed. -/
def reportFailure (failure : Failure) : IO UInt32 := do
  IO.eprintln failure.text
  return 1

/-- The file that a command leaves behind is written before its answer is printed. -/
def deliver (report : Report) : IO UInt32 := do
  match report.document with
  | none => IO.print report.text; return 0
  | some (path, text) =>
    if ← writeText path text then
      IO.print report.text
      return 0
    else reportFailure (.file path)

/-- Runs a command line. -/
def runArguments (arguments : Arguments) : IO UInt32 := do
  let settings ← readSettings
  let files ← readFiles (arguments.action.inputs fun name => settings.lookup name)
  match Command.run (.ofLists settings files) arguments with
  | .ok report => deliver report
  | .error failure => reportFailure failure

end PollAtlas.Program

/-- Runs the program. The exit code is 0 for an answer and for help, 1 for a command that
failed, and 2 for a command line that is refused. -/
def main (arguments : List String) : IO UInt32 := do
  match PollAtlas.Command.Arguments.parse arguments with
  | .ok arguments => PollAtlas.Program.runArguments arguments
  | .error (.help topic) =>
    IO.print (PollAtlas.Command.Help.text topic)
    return 0
  | .error (.usage error) =>
    IO.eprintln s!"error: {error.message}"
    return 2
