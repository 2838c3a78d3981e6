import CronSchedule.Command.Arguments
import CronSchedule.Command.Report
import CronSchedule.Config.Layers

/-!
# The program

`Program.run` is what a run of the command line comes to: the arguments are read,
the settings are put together, the command is carried out and its report printed.
Everything that the run depends on, the files, the environment variables and the
time included, is in `Program.Surroundings`, and so are the zones that there are and
what configurations are read with. What is written to the log is left out.
-/

namespace CronSchedule

namespace Program

/-- What a run depends on besides its arguments. -/
structure Surroundings where
  /-- The environment variables by name. -/
  environment : List (String × String)
  /-- What is in a file, if there is such a file. -/
  contentOf : String → Option String
  now : Instant
  /-- The zones by name. -/
  zoneOf : String → Option Zone
  /-- What the configuration is read with. -/
  reader : Config.Reader

/-- What a run comes to. -/
inductive Outcome
  /-- The arguments were not understood, or ask for help. -/
  | usage (error : UsageError)
  /-- The run ended with a code, some output and perhaps a text about an error. -/
  | finished (code : Nat) (output error : String)
deriving DecidableEq, Repr

/-- The name of the program and its version. -/
def versionText : String := "cronctl 0.3.0\n"

/-- A text over several lines, each after four blanks. -/
def indented (text : String) : String :=
  "\n".intercalate ((Text.split '\n' text.toList).map fun line => "    " ++ String.ofList line)

/-- A message and its cause as they are printed. -/
def errorText : List String → String
  | [] => ""
  | [message] => s!"Error: {message}"
  | message :: cause :: _ => s!"Error: {message}\n\nCaused by:\n" ++ indented cause

/-- A run that failed. -/
def failed (messages : List String) : Outcome :=
  .finished 1 "" (errorText messages)

/-- The directory of configuration files. -/
def configHome (environment : List (String × String)) : String :=
  match environment.lookup "XDG_CONFIG_HOME" with
  | some path =>
    if path.startsWith "/" then path else ownHome
  | none => ownHome
where
  ownHome : String := (environment.lookup "HOME").getD "" ++ "/.config"

/-- The user's configuration file, without its extension. -/
def userPath (environment : List (String × String)) : String :=
  configHome environment ++ "/cronctl/config"

/-- A report as it is printed. -/
def printed (format : OutputFormat) (zone : Zone) (report : Report) : String :=
  match format with
  | .text => report.text zone
  | .json => report.toJson.pretty

/-- The run of arguments that have been understood. -/
def carryOut (surroundings : Surroundings) (arguments : Arguments) : Outcome :=
  match Config.load surroundings.reader surroundings.contentOf
      (userPath surroundings.environment) arguments.config surroundings.environment with
  | .error error => failed error.messages
  | .ok settings =>
    let settings := settings.override arguments.timezone arguments.logLevel arguments.output
    match settings.engine.zone surroundings.zoneOf with
    | .error error => failed ["Invalid timezone setting", error.message]
    | .ok zone =>
      let context : Command.Context := {
        yearLimit := Schedule.yearLimitAt surroundings.now.seconds
        zone := zone
        defaultCount := settings.count
        now := surroundings.now }
      match arguments.command.execute context with
      | .error error => failed error.messages
      | .ok report =>
        .finished (if report.isSuccess then 0 else 1)
          (printed settings.output zone report ++ "\n") ""

/-- What a run of the program with these arguments comes to. It always ends, also where
`Schedule.previousBefore` stands for a search that would not. -/
def run (surroundings : Surroundings) (arguments : List String) : Outcome :=
  match Arguments.read arguments with
  | .error .versionWanted => .finished 0 versionText ""
  | .error error => .usage error
  | .ok arguments => carryOut surroundings arguments

/-- The files that a run with these arguments may look into. -/
def filesOf (formats : List FileFormat) (environment : List (String × String))
    (arguments : List String) : List String :=
  let named := match Arguments.read arguments with
    | .ok arguments => arguments.config
    | .error _ => none
  ((userPath environment :: named.toList).flatMap (Config.candidates formats)).map (·.1)

end Program

end CronSchedule
