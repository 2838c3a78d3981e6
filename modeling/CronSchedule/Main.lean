import CronSchedule.Program
import CronSchedule.Zone.Database
import Std.Time.DateTime.Timestamp

/-!
# The command line

`main` gathers what a run depends on, the clock, the environment variables and the
files, and leaves the rest to `Program.run`. Configuration files are read in two
formats here, and zones looked up in an excerpt of the database; the causes of
errors in the configuration have a wording of their own.
-/

namespace CronSchedule

namespace Main

/-- The file in which a system may show a program its environment variables. -/
def variableFile : String := "/proc/self/environ"

/-- The environment variables that a run depends on where there is no such file. -/
def variableNames : List String :=
  ["HOME", "XDG_CONFIG_HOME", "CRONCTL_TIMEZONE", "CRONCTL_LOG_LEVEL", "CRONCTL_COUNT",
    "CRONCTL_OUTPUT"]

/-- What the user is told whose arguments are not understood. -/
def usageText : String :=
  "Usage: cronctl [OPTIONS] <COMMAND>\n" ++
    "Commands: check, explain, next, prev, matches, invalid-after, help\n"

/-- What configurations are read with. -/
def reader : Config.Reader where
  formats := [.toml, .json]
  loadCause path content :=
    if content.isSome then s!"no values can be read from \"{path}\""
    else s!"configuration file \"{path}\" not found"
  valueCause _ := "a value does not have the type of its setting"

/-- The variables in a text of entries `name=value`, each of which a null character ends. -/
def variablesIn (content : String) : List (String × String) :=
  (Text.split '\x00' content.toList).filterMap fun entry =>
    let name := entry.takeWhile (· != '=')
    if name.length < entry.length then
      some (String.ofList name, String.ofList (entry.drop (name.length + 1)))
    else none

/-- The environment variables that are set, with their values. -/
def readVariables : IO (List (String × String)) := do
  match ← (IO.FS.readFile variableFile).toBaseIO with
  | .ok content => return variablesIn content
  | .error _ =>
    let values ← variableNames.mapM fun name => do
      return (← IO.getEnv name).map fun value => (name, value)
    return values.reduceOption

/-- The contents of the files that there are. -/
def readFiles (paths : List String) : IO (List (String × String)) := do
  let contents ← paths.mapM fun (path : String) => do
    match ← (IO.FS.readFile path).toBaseIO with
    | .ok content => return some (path, content)
    | .error _ => return none
  return contents.reduceOption

end Main

end CronSchedule

open CronSchedule Main in
/-- Runs the program and prints what the run comes to. -/
def main (arguments : List String) : IO UInt32 := do
  let environment ← readVariables
  let files ← readFiles (Program.filesOf reader.formats environment arguments)
  let now ← Std.Time.Timestamp.now
  let seconds := now.toSecondsSinceUnixEpoch.val
  let nanos := now.toNanosecondsSinceUnixEpoch.val - seconds * 1000000000
  let surroundings : Program.Surroundings := {
    environment := environment
    contentOf := fun path => files.lookup path
    now := ⟨seconds, nanos.toNat⟩
    zoneOf := Zone.ofName?
    reader := reader }
  match Program.run surroundings arguments with
  | .usage .helpWanted =>
    IO.print usageText
    return 0
  | .usage _ =>
    IO.eprint usageText
    return 2
  | .finished code output error =>
    IO.print output
    if !error.isEmpty then
      IO.eprintln error
    return code.toUInt32
