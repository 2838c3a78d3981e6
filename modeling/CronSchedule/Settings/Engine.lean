import CronSchedule.Schedule.Document

/-!
# The default zone

Schedules that are not given a zone of their own go by the wall clock of a
configured one. The configuration holds only its name, so that the zone is
looked up, and a wrong name reported, when it is first needed.
-/

namespace CronSchedule

/-- The zone of schedules that are given none. -/
structure EngineSettings where
  /-- The name of the zone. -/
  defaultTimezone : String := "UTC"
deriving DecidableEq, Repr

namespace EngineSettings

/-- The settings that a document holds. -/
def ofJson : Json → Except Json.DecodeError EngineSettings :=
  Json.decodeRecord "struct CronConfig"
    [⟨"default_timezone", fun value settings => do
      return { settings with defaultTimezone := ← value.decodeString }⟩]
    {}

/-- The zone that the settings name. -/
def zone (zoneOf : String → Option Zone) (settings : EngineSettings) :
    Except BuildError Zone :=
  match zoneOf settings.defaultTimezone with
  | some zone => .ok zone
  | none => .error (.unknownZone settings.defaultTimezone)

/-- The schedule that a text describes on the wall clock of the default zone. -/
def schedule (yearLimit : Nat) (zoneOf : String → Option Zone) (settings : EngineSettings)
    (text : String) : Except BuildError Schedule :=
  Schedule.build yearLimit zoneOf settings.defaultTimezone text

end EngineSettings

end CronSchedule
