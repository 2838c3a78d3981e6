import CronSchedule.Settings.Engine

/-!
# Settings of the command line

The zone, the level of logging, the number of fire times listed and the form of
the output. Each setting has a default. Settings are read from a document, and
flags of the command line override them one by one.
-/

namespace CronSchedule

/-- How reports are printed. -/
inductive OutputFormat
  | text
  | json
deriving DecidableEq, Repr

namespace OutputFormat

/-- The formats by name. -/
def choices : List (String × OutputFormat) :=
  [("text", text), ("json", json)]

/-- The name of a format. -/
def name : OutputFormat → String
  | text => "text"
  | json => "json"

/-- The format of a name. -/
def ofName? (name : String) : Option OutputFormat :=
  choices.lookup name

end OutputFormat

/-- What can be configured. -/
structure Settings where
  /-- The name of the zone whose wall clock expressions go by. -/
  timezone : String := "UTC"
  logLevel : String := "warn"
  /-- How many fire times are listed where the command does not say. -/
  count : Nat := 5
  output : OutputFormat := .text
deriving DecidableEq, Repr

namespace Settings

/-- The settings that a document holds. -/
def ofJson : Json → Except Json.DecodeError Settings :=
  Json.decodeRecord "struct Settings"
    [⟨"timezone", fun value settings => do
        return { settings with timezone := ← value.decodeString }⟩,
      ⟨"log_level", fun value settings => do
        return { settings with logLevel := ← value.decodeString }⟩,
      ⟨"count", fun value settings => do
        return { settings with count := ← value.decodeCount }⟩,
      ⟨"output", fun value settings => do
        return { settings with output := ← value.decodeChoice OutputFormat.choices }⟩]
    {}

/-- The settings with those replaced that are given. -/
def override (settings : Settings) (timezone logLevel : Option String)
    (output : Option OutputFormat) : Settings :=
  { settings with
    timezone := timezone.getD settings.timezone
    logLevel := logLevel.getD settings.logLevel
    output := output.getD settings.output }

/-- The part of the settings that concerns schedules. -/
def engine (settings : Settings) : EngineSettings :=
  ⟨settings.timezone⟩

end Settings

end CronSchedule
