/-!
# Dates and day numbers

The Gregorian calendar, extended backwards without end. A `Date` is a year, a
month and a day; days are also counted from 1970-01-01, which is day 0.
`Date.dayNumber` and `Date.ofDayNumber` go between the two, by way of the days
that lie before a year (`daysBeforeYear`) and before a month of it
(`daysBeforeMonth`). Weekdays are numbered from Sunday, which is 1, to
Saturday, which is 7.
-/

namespace CronSchedule

namespace Calendar

/-- Every fourth year is a leap year, except for the centuries that 400 does
not divide. -/
def isLeapYear (year : Int) : Bool :=
  (year % 4 == 0 && year % 100 != 0) || year % 400 == 0

/-- Number of days in a month; months are numbered from 1. -/
def monthLength (year : Int) (month : Nat) : Nat :=
  match month with
  | 4 | 6 | 9 | 11 => 30
  | 2 => if isLeapYear year then 29 else 28
  | _ => 31

/-- Days from 1970-01-01 to the first of January of a year, negative before
1970. Of the years 1 to 1969, 477 are leap years. -/
def daysBeforeYear (year : Int) : Int :=
  365 * (year - 1970) + (year - 1) / 4 - (year - 1) / 100 + (year - 1) / 400 - 477

/-- Days of a year that lie before one of its months. -/
def daysBeforeMonth (year : Int) : Nat → Nat
  | 0 => 0
  | 1 => 0
  | month + 2 => daysBeforeMonth year (month + 1) + monthLength year (month + 1)

/-- The year that a day lies in. 400 years have 146097 days, so the first guess
is off by one year at most. -/
def yearOfDay (day : Int) : Int :=
  let guess := 1970 + day * 400 / 146097
  if day < daysBeforeYear guess then guess - 1
  else if daysBeforeYear (guess + 1) ≤ day then guess + 1
  else guess

/-- The month and the day of the month of the day that comes `rest` days after
the first of these months begins. -/
def monthAndDay (year : Int) : List Nat → Nat → Nat × Nat
  | [], rest => (12, rest + 1)
  | month :: later, rest =>
    if rest < monthLength year month then (month, rest + 1)
    else monthAndDay year later (rest - monthLength year month)

/-- The weekday of a day: 1 is Sunday and 7 is Saturday. Day 0 is a Thursday. -/
def weekday (day : Int) : Nat :=
  ((day + 4) % 7).toNat + 1

/-- Days to go forward from one weekday to reach another. -/
def daysUntil (weekday wanted : Nat) : Nat :=
  (wanted + 7 - weekday) % 7

end Calendar

open Calendar

/-- A day named by year, month and day of the month, both numbered from 1. -/
structure Date where
  year : Int
  month : Nat
  day : Nat
deriving DecidableEq, Repr

namespace Date

/-- A date that the calendar has. -/
def Valid (date : Date) : Prop :=
  1 ≤ date.month ∧ date.month ≤ 12 ∧ 1 ≤ date.day ∧
    date.day ≤ monthLength date.year date.month

instance (date : Date) : Decidable date.Valid := by
  unfold Valid
  infer_instance

/-- Days from 1970-01-01 to the date. A day past the end of its month counts on
into the next one. -/
def dayNumber (date : Date) : Int :=
  daysBeforeYear date.year + daysBeforeMonth date.year date.month + (date.day : Int) - 1

/-- The date of a day. -/
def ofDayNumber (day : Int) : Date :=
  let year := yearOfDay day
  let (month, dayOfMonth) :=
    monthAndDay year (List.range' 1 12) (day - daysBeforeYear year).toNat
  ⟨year, month, dayOfMonth⟩

/-- Number of days in the month of the date. -/
def monthLength (date : Date) : Nat :=
  Calendar.monthLength date.year date.month

/-- The weekday of the date, from 1 for Sunday to 7 for Saturday. -/
def weekday (date : Date) : Nat :=
  Calendar.weekday date.dayNumber

/-- The day of the same month that is nearest to the date among Monday to Friday.
A Saturday gives way to the Friday before it, unless that is in another month,
and a Sunday to the Monday after it, unless that is. -/
def nearestWeekday (date : Date) : Nat :=
  match date.weekday with
  | 7 => if date.day = 1 then date.day + 2 else date.day - 1
  | 1 => if date.day = date.monthLength then date.day - 2 else date.day + 1
  | _ => date.day

end Date

end CronSchedule
