import CronSchedule.Instant.Printer
import CronSchedule.Instant.Reader
import CronSchedule.Json.Basic
import CronSchedule.Search.Previous
import CronSchedule.Search.Run

/-!
# Commands and their reports

Each command asks one thing about an expression and is answered by a `Report`.
`Command.execute` gives the answer; instants that the user leaves out are the
present moment, which is an argument like any other. It fails only on a wrong
expression or a wrong instant, and `check`, whose answer is that the expression
is wrong, never does.
-/

namespace CronSchedule

/-- What is asked about an expression. -/
inductive Command
  /-- Is it an expression? -/
  | check (expression : String)
  /-- What do its fields allow? -/
  | explain (expression : String)
  /-- When does it fire next, `count` times? -/
  | next (expression : String) (after : Option String) (count : Option Nat)
  /-- When did it fire last? -/
  | previous (expression : String) (before : Option String)
  /-- Does it fire at an instant? -/
  | satisfied (expression instant : String)
  /-- When is the first second at which it does not fire? -/
  | firstMiss (expression : String) (after : Option String)
deriving DecidableEq, Repr

/-- The answer to a command. -/
inductive Report
  /-- Whether the expression is one. If it is not, what is wrong with it and where. -/
  | check (expression : String) (valid : Bool) (error : Option String) (position : Option Nat)
  | explain (expression zone summary : String)
  | next (expression zone : String) (after : Instant) (fireTimes : List Instant)
  | previous (expression zone : String) (before : Instant) (fireTime : Option Instant)
  | satisfied (expression zone : String) (instant : Instant) (fires : Bool)
  | firstMiss (expression zone : String) (after invalidAt : Instant)
deriving DecidableEq, Repr

/-- Why a command has no answer. -/
inductive CommandError
  | expression (text : String) (error : ExpressionError)
  | instant (error : InstantError)
deriving DecidableEq, Repr

namespace CommandError

/-- The wording of the error, the outermost part first, then its cause. -/
def messages : CommandError → List String
  | expression text error => [s!"Failed to parse cron expression '{text}'", error.message]
  | instant error => [error.message]

end CommandError

namespace Command

/-- What commands are carried out with. -/
structure Context where
  /-- The largest year that an expression may name. -/
  yearLimit : Nat
  zone : Zone
  /-- How many fire times are listed where the command does not say. -/
  defaultCount : Nat
  now : Instant

namespace Context

/-- The schedule of an expression. -/
def schedule (context : Context) (expression : String) : Except CommandError Schedule :=
  (Schedule.read context.yearLimit context.zone expression).mapError (.expression expression)

/-- The instant of a text. -/
def instant (context : Context) (text : String) : Except CommandError Instant :=
  (Instant.read context.zone text).mapError .instant

/-- The instant of a text, or the present moment if there is none. -/
def instantOrNow (context : Context) (text : Option String) : Except CommandError Instant :=
  match text with
  | some text => context.instant text
  | none => .ok context.now

end Context

/-- The answer to a command. There is one to `previous` also where the search that
`Schedule.previousBefore` stands for would not end. -/
def execute (context : Context) : Command → Except CommandError Report
  | check expression =>
    match Schedule.read context.yearLimit context.zone expression with
    | .ok s => .ok (.check s.text true none none)
    | .error error => .ok (.check expression false (some error.message) (some error.position))
  | explain expression => do
    let s ← context.schedule expression
    return .explain s.text s.zone.name s.summary
  | next expression after count => do
    let s ← context.schedule expression
    let after ← context.instantOrNow after
    return .next s.text s.zone.name after (s.upcoming after (count.getD context.defaultCount))
  | previous expression before => do
    let s ← context.schedule expression
    let before ← context.instantOrNow before
    return .previous s.text s.zone.name before (s.previousBefore before)
  | satisfied expression instant => do
    let s ← context.schedule expression
    let instant ← context.instant instant
    return .satisfied s.text s.zone.name instant (s.isSatisfiedBy instant)
  | firstMiss expression after => do
    let s ← context.schedule expression
    let after ← context.instantOrNow after
    return .firstMiss s.text s.zone.name after (s.firstMissAfter after)

end Command

end CronSchedule
