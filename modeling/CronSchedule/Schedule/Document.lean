import CronSchedule.Json.Decode
import CronSchedule.Schedule.Basic

/-!
# Schedules as documents

A schedule is stored as its normalized text and the name of its zone, from which
it can be read again. A document that is only a text is read in UTC.
-/

namespace CronSchedule

namespace Schedule

/-- The document of a schedule. -/
def toJson (s : Schedule) : Json :=
  .object [("expression", .string s.text), ("time_zone", .string s.zone.name)]

/-- The schedule of a document. The zone is looked at before the expression. -/
def ofJson (yearLimit : Nat) (zoneOf : String → Option Zone) (document : Json) :
    Except Json.DecodeError Schedule :=
  let made : Except BuildError Schedule → Except Json.DecodeError Schedule :=
    Except.mapError fun error => .rejected error.message
  match document.get? "expression", document.get? "time_zone", document with
  | some (.string text), some (.string zone), _ => made (build yearLimit zoneOf zone text)
  | _, _, .string text => made ((read yearLimit .utc text).mapError .expression)
  | _, _, _ => .error (.noForm "SerializedExpression")

end Schedule

end CronSchedule
