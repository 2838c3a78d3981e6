import CronSchedule.Command.Basic

/-!
# Reports in writing

A report is shown as text, with instants as the wall clock of a zone shows them,
or as a document, with instants in UTC. `Report.isSuccess` tells whether the
answer is a good one.
-/

namespace CronSchedule

namespace Report

/-- The expression is valid, or fires at the instant asked about; other reports are
neither good nor bad news. -/
def isSuccess : Report → Bool
  | check _ valid _ _ => valid
  | satisfied _ _ _ fires => fires
  | _ => true

/-- An instant in a document. -/
def instantJson (t : Instant) : Json :=
  .string t.rfc3339Utc

/-- A member of a document, which has none for a missing value. -/
def member {α : Type} (name : String) (json : α → Json) (value : Option α) :
    List (String × Json) :=
  (value.map fun value => (name, json value)).toList

/-- The document of a report. -/
def toJson : Report → Json
  | check expression valid error position =>
    .object <| [
      ("command", .string "check"),
      ("expression", .string expression),
      ("valid", .bool valid)] ++
      member "error" .string error ++
      member "position" (fun position : Nat => .int position) position
  | explain expression zone summary => .object [
      ("command", .string "explain"),
      ("expression", .string expression),
      ("time_zone", .string zone),
      ("summary", .string summary)]
  | next expression zone after fireTimes => .object [
      ("command", .string "next"),
      ("expression", .string expression),
      ("time_zone", .string zone),
      ("after", instantJson after),
      ("fire_times", .array (fireTimes.map instantJson))]
  | previous expression zone before fireTime => .object [
      ("command", .string "prev"),
      ("expression", .string expression),
      ("time_zone", .string zone),
      ("before", instantJson before),
      ("fire_time", .ofOption instantJson fireTime)]
  | satisfied expression zone instant fires => .object [
      ("command", .string "matches"),
      ("expression", .string expression),
      ("time_zone", .string zone),
      ("instant", instantJson instant),
      ("matches", .bool fires)]
  | firstMiss expression zone after invalidAt => .object [
      ("command", .string "invalid_after"),
      ("expression", .string expression),
      ("time_zone", .string zone),
      ("after", instantJson after),
      ("invalid_at", instantJson invalidAt)]

/-- The text without the line breaks that it ends with. -/
def dropFinalBreaks (text : String) : String :=
  String.ofList (text.toList.reverse.dropWhile (· == '\n')).reverse

/-- The report as text, with instants on the wall clock of a zone. -/
def text (zone : Zone) : Report → String
  | check expression true _ _ => s!"Valid: {expression}"
  | check expression false error _ =>
    s!"Invalid: {expression}\n  " ++ error.getD "unknown error"
  | explain expression name summary =>
    s!"{expression} ({name})\n" ++ dropFinalBreaks summary
  | next _ _ _ [] => "No upcoming fire times"
  | next _ _ _ fireTimes => "\n".intercalate (fireTimes.map (·.rfc3339 zone))
  | previous _ _ _ (some fireTime) => fireTime.rfc3339 zone
  | previous _ _ before none => s!"No fire time before {before.rfc3339 zone}"
  | satisfied _ _ instant true => s!"{instant.rfc3339 zone} matches"
  | satisfied _ _ instant false => s!"{instant.rfc3339 zone} does not match"
  | firstMiss _ _ _ invalidAt => invalidAt.rfc3339 zone

end Report

end CronSchedule
