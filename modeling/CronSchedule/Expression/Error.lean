import CronSchedule.Field.Basic

/-!
# What can be wrong with an expression

Each constructor of `Fault` is one way in which a text fails to be an
expression; `Fault.message` words it. An `ExpressionError` adds the place, and
`BuildError` the other thing that can be wrong when an expression is given
together with the name of a time zone.
-/

namespace CronSchedule

/-- A reason why a text is not an expression. -/
inductive Fault
  /-- There are fewer than six fields. -/
  | tooFewFields
  /-- There are more than seven fields. -/
  | tooManyFields
  /-- Nothing stands between two commas, or at an end of a list. -/
  | emptyItem (field : Field)
  /-- `?` stands in a list. -/
  | unspecifiedInList
  /-- `L` stands in a list of days of the month. -/
  | lastDayInList
  /-- `W` stands in a list of days of the month. -/
  | nearestWeekdayInList
  /-- `L` stands in a list of weekdays. -/
  | lastWeekdayInList
  /-- There is more than one `#`. -/
  | severalNthWeekdays
  /-- `#` stands in a list of weekdays. -/
  | nthWeekdayInList
  /-- `?` is followed by something. -/
  | afterUnspecified
  /-- `?` stands in a field that is not about days. -/
  | unspecifiedOutsideDays
  /-- `L` stands where no last day can be meant. -/
  | lastNotAllowed
  /-- `W` stands where no weekday can be meant. -/
  | nearestWeekdayNotAllowed
  /-- `#` stands where no weekday can be meant. -/
  | nthWeekdayNotAllowed
  /-- The number after `L-` is too large. -/
  | lastDayOffsetTooLarge
  /-- The day before `W` is beyond the longest month. -/
  | nearestWeekdayBeyondMonth
  /-- No number from 1 to 5 follows `#`. -/
  | nthOutOfRange
  /-- A character that cannot stand here. -/
  | unexpected (c : Char)
  /-- The item ends where something has to follow. -/
  | unexpectedEnd
  /-- A number that has no 32-bit form. -/
  | numberTooLarge (digits : String)
  /-- Letters where no name can stand, or too few of them. -/
  | notAName (letters : String)
  /-- Three letters that name no month. -/
  | unknownMonth (letters : String)
  /-- Three letters that name no weekday. -/
  | unknownWeekday (letters : String)
  /-- Nothing follows `/`. -/
  | missingStep
  /-- The step is zero. -/
  | zeroStep
  /-- The step is larger than the field allows. -/
  | stepTooLarge (field : Field) (step : Nat)
  /-- A value outside the field, whose years end with `yearLimit`. -/
  | outOfRange (field : Field) (yearLimit : Nat)
  /-- A range of years that ends before it begins. -/
  | yearsReversed
  /-- The field admits no value at all. -/
  | noValues (field : Field)
  /-- Both day fields choose the day. -/
  | bothDayFields
deriving DecidableEq, Repr

namespace Fault

/-- What is said about values outside a field. -/
def rangeMessage (yearLimit : Nat) : Field → String
  | .second | .minute => "Minute and Second values must be between 0 and 59"
  | .hour => "Hour values must be between 0 and 23"
  | .dayOfMonth => "Day of month values must be between 1 and 31"
  | .month => "Month values must be between 1 and 12"
  | .dayOfWeek => "Day-of-Week values must be between 1 and 7"
  | .year => s!"Year values must be between {Field.firstYear} and {yearLimit}"

/-- The wording of a fault. -/
def message : Fault → String
  | tooFewFields => "Unexpected end of expression."
  | tooManyFields => "Extraneous tokens after the year field"
  | emptyItem field => s!"Empty value in the {field.name} list"
  | unspecifiedInList => "'?' cannot be combined with other values"
  | lastDayInList =>
    "Support for specifying 'L' and 'LW' with other days of the month is not implemented"
  | nearestWeekdayInList =>
    "Support for specifying 'W' with other days of the month is not implemented"
  | lastWeekdayInList =>
    "Support for specifying 'L' with other days of the week is not implemented"
  | severalNthWeekdays =>
    "Support for specifying multiple \"nth\" days is not implemented."
  | nthWeekdayInList =>
    "Support for specifying '#' with other days of the week is not implemented"
  | afterUnspecified => "Illegal character after '?'"
  | unspecifiedOutsideDays =>
    "'?' can only be specified for Day-of-Month or Day-of-Week."
  | lastNotAllowed => "'L' option is not valid here."
  | nearestWeekdayNotAllowed => "'W' option is not valid here."
  | nthWeekdayNotAllowed => "'#' option is not valid here."
  | lastDayOffsetTooLarge => "Offset from last day must be <= 30"
  | nearestWeekdayBeyondMonth =>
    "The 'W' option does not make sense with values larger than 31 " ++
      "(max number of days in a month)"
  | nthOutOfRange => "A numeric value between 1 and 5 must follow the '#' option"
  | unexpected c => s!"Unexpected character: '{c}'"
  | unexpectedEnd => "Unexpected end of value."
  | numberTooLarge digits => s!"Numeric value '{digits}' is too large"
  | notAName letters => s!"Illegal characters for this position: '{letters}'"
  | unknownMonth letters => s!"Invalid Month value: '{letters}'"
  | unknownWeekday letters => s!"Invalid Day-of-Week value: '{letters}'"
  | missingStep => "'/' must be followed by an integer."
  | zeroStep => "Increment must be a positive integer"
  | stepTooLarge field step =>
    s!"Increment > {field.greatestStep} : {step} is not valid for the {field.name} field"
  | outOfRange field yearLimit => rangeMessage yearLimit field
  | yearsReversed => "Start year must be less than stop year"
  | noValues field => s!"No values specified for the {field.name} field"
  | bothDayFields =>
    "Support for specifying both a day-of-week AND a day-of-month parameter " ++
      "is not implemented."

end Fault

/-- Why a text is not an expression, and where that shows. -/
structure ExpressionError where
  fault : Fault
  /-- Where in the normalized text, counted from 0. -/
  position : Nat
deriving DecidableEq, Repr

namespace ExpressionError

/-- The fault and its position in one sentence. -/
def message (error : ExpressionError) : String :=
  s!"Invalid cron expression: {error.fault.message} (at position {error.position})"

end ExpressionError

/-- Why no schedule came of an expression and the name of a zone. -/
inductive BuildError
  | expression (error : ExpressionError)
  | unknownZone (name : String)
deriving DecidableEq, Repr

namespace BuildError

/-- The error in one sentence. -/
def message : BuildError → String
  | expression error => error.message
  | unknownZone name => s!"Invalid timezone: {name}"

/-- The position of a fault in an expression. -/
def position? : BuildError → Option Nat
  | expression error => some error.position
  | unknownZone _ => none

end BuildError

end CronSchedule
