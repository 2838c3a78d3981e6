import CronSchedule.Expression.Reader
import CronSchedule.Zone.Basic

/-!
# Schedules

A schedule is an expression that has been read: its normalized text, the values
that each field allows, the choice of the day, and the zone whose wall clock it
goes by. `Schedule.read` makes one from a text; nothing looks at the text again.
-/

namespace CronSchedule

open Expression

/-- An expression with the zone whose wall clock it goes by. -/
structure Schedule where
  /-- The normalized text. -/
  text : String
  fields : Fields ValueSet
  day : DayRule
  zone : Zone
deriving DecidableEq, Repr

namespace DayRule

/-- The day is counted from the end of the month. -/
def isLastDayOfMonth : DayRule → Bool
  | lastDay _ _ => true
  | _ => false

/-- How many days before the last day of the month, 0 for other rules. -/
def lastDayOffset : DayRule → Nat
  | lastDay offset _ => offset
  | _ => 0

/-- The nearest weekday is taken. -/
def isNearestWeekday : DayRule → Bool
  | lastDay _ nearest => nearest
  | nearestWeekday _ => true
  | _ => false

/-- Which one of a weekday in the month, 0 for other rules. -/
def nthDayOfWeek : DayRule → Nat
  | nthWeekday _ nth => nth
  | _ => 0

/-- The last one of a weekday in the month is taken. -/
def isLastDayOfWeek : DayRule → Bool
  | lastWeekday _ => true
  | _ => false

end DayRule

namespace Schedule

/-- The largest year that a schedule may name when it is read at a moment, by
the year in UTC. -/
def yearLimitAt (now : Int) : Nat :=
  Field.yearLimit (Zone.utc.readingAt now).date.year

/-- The values that a field allows. -/
def field (s : Schedule) (field : Field) : ValueSet :=
  s.fields.get field

/-- A field must allow some value, unless it counts from the end of the month. -/
def checkValues (tokens : Fields Token) (day : DayRule) (sets : Fields ValueSet) :
    Except ExpressionError Unit :=
  match sets.toList.find? fun (field, set) =>
      set.isEmpty && !(field == .dayOfMonth && day.isLastDayOfMonth) with
  | some (field, _) => .error ⟨.noValues field, (tokens.get field).offset⟩
  | none => .ok ()

/-- The schedule that a normalized text describes. -/
def ofNormalized (yearLimit : Nat) (zone : Zone) (text : List Char) :
    Except ExpressionError Schedule := do
  let tokens ← fieldTokens text
  let items ← tokens.mapExcept (readItems yearLimit)
  let sets := items.map (valueSet yearLimit)
  checkValues tokens (fieldDayRule .monthDays items.dayOfMonth) sets
  if .unspecified ∉ items.dayOfMonth ∧ .unspecified ∉ items.dayOfWeek then
    .error ⟨.bothDayFields, tokens.dayOfWeek.offset⟩
  return ⟨String.ofList text, sets, dayRule items.dayOfMonth items.dayOfWeek, zone⟩

/-- The schedule that a text describes, on the wall clock of a zone, if the text
is an expression whose years are `yearLimit` at most. -/
def read (yearLimit : Nat) (zone : Zone) (text : String) : Except ExpressionError Schedule :=
  ofNormalized yearLimit zone (normalize text.toList)

/-- As `read`, with the zone given by its name, which is looked at first. -/
def build (yearLimit : Nat) (zoneOf : String → Option Zone) (zoneName text : String) :
    Except BuildError Schedule :=
  match zoneOf zoneName with
  | none => .error (.unknownZone zoneName)
  | some zone => (read yearLimit zone text).mapError .expression

/-- The same schedule on the wall clock of another zone. -/
def inZone (s : Schedule) (zone : Zone) : Schedule :=
  { s with zone := zone }

/-- The schedule field by field, one line each. -/
def summary (s : Schedule) : String :=
  String.join <| [
    ("seconds", (s.field .second).text),
    ("minutes", (s.field .minute).text),
    ("hours", (s.field .hour).text),
    ("days_of_month", (s.field .dayOfMonth).text),
    ("months", (s.field .month).text),
    ("days_of_week", (s.field .dayOfWeek).text),
    ("last_day_of_week", toString s.day.isLastDayOfWeek),
    ("nearest_weekday", toString s.day.isNearestWeekday),
    ("nth_day_of_week", toString s.day.nthDayOfWeek),
    ("last_day_of_month", toString s.day.isLastDayOfMonth),
    ("last_day_offset", toString s.day.lastDayOffset),
    ("years", (s.field .year).text),
    ("time_zone", s.zone.name)].map fun (label, value) => s!"{label}: {value}\n"

end Schedule

end CronSchedule
