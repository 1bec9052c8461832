import QuorumRing.CommandLine.Commands
import QuorumRing.Http.Server
import QuorumRing.Json.Printer

/-!
# The program

The outer layer: it reads the arguments, the environment and the settings file, and prints what
comes of them. It has no network, so that the command that answers requests ends when it tries to
listen.
-/

namespace QuorumRing.Program

/-- The content of a file, if there is one. -/
def readFile? (path : String) : IO (Option String) :=
  try return some (← IO.FS.readFile path) catch _ => return none

/-- The first of the files that there is. -/
def firstFile? : List String → IO (Option SettingsFile)
  | [] => return none
  | path :: paths => do
    match ← readFile? path with
    | some content => return some { name := SettingsFile.plainPath path, content }
    | none => firstFile? paths

/-- The file that is meant by a path. -/
def settingsFile? (path : String) : IO (Option SettingsFile) :=
  firstFile? (path :: FileFormat.all.map fun format => path ++ "." ++ format.extension)

/-- The variables of the environment. -/
def environment : IO (List (String × String)) := do
  let content := (← readFile? "/proc/self/environ").getD ""
  return (content.splitOn "\x00").filterMap fun entry =>
    match entry.splitOn "=" with
    | name :: value@(_ :: _) => some (name, "=".intercalate value)
    | _ => none

/-- The path of the settings file that the arguments name. -/
def pathOf (arguments : List String) : String :=
  match CommandLine.Invocation.parse arguments with
  | .ok invocation => invocation.overrides.file.getD Settings.defaultFile
  | .error _ => Settings.defaultFile

/-- Tells what went wrong, and gives the exit status. -/
def complain (message : String) (exitCode : Nat) : IO UInt32 := do
  IO.eprintln message
  return exitCode.toUInt32

/-- Runs the program. -/
def run (arguments : List String) : IO UInt32 := do
  let file ← settingsFile? (pathOf arguments)
  let outcome := CommandLine.run arguments file (← environment)
  match outcome with
  | .printed text => IO.print text; return 0
  | .report report => IO.println report.toJson.pretty; return 0
  | .refused refusal => complain refusal.message outcome.exitCode
  | .failed e => complain s!"Error: {e.message}" outcome.exitCode
  | .serving settings =>
    match Server.start settings fun address => .error s!"cannot listen at {address.text}" with
    | .ok _ => return 0
    | .error e => complain s!"Error: {e.message}" 1

end QuorumRing.Program

/-- Runs the program. -/
def main (arguments : List String) : IO UInt32 := QuorumRing.Program.run arguments
