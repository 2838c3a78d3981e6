import CronSchedule.Field.Basic
import CronSchedule.Field.ValueSet

/-!
# The items of a field, and what they mean

A field is a list of items between commas. `Item` is what one of them says once
names and defaults have been resolved, `Item.values` are the values that it
contributes, and `valueSet` joins those of a whole field. Which day the two day
fields choose is not always a set of values; `DayRule` is the choice, and
`dayRule` reads it off the items.
-/

namespace CronSchedule

namespace Expression

/-- One item of a field. -/
inductive Item
  /-- `?`: the field is left to the other day field. -/
  | unspecified
  /-- A bare `*`. -/
  | all
  /-- A single value. -/
  | value (value : Nat)
  /-- Every `step`-th value from `start` to `stop`, or to the largest one. -/
  | range (start : Nat) (stop : Option Nat) (step : Nat)
  /-- `L`, `L-n`, `LW` and `L-nW`: `offset` days before the last day of the
  month, or the weekday nearest to it. -/
  | lastDay (offset : Nat) (nearestWeekday : Bool)
  /-- `nW`: the weekday nearest to a day of the month. -/
  | nearestWeekday (day : Nat)
  /-- `nL`: the last one of a weekday in the month. -/
  | lastWeekday (weekday : Nat)
  /-- `n#m`: the `nth` one of a weekday in the month. -/
  | nthWeekday (weekday nth : Nat)
deriving DecidableEq, Repr

/-- Every `step`-th number from `start` up to `stop`. -/
def countUp (start stop step : Nat) : List Nat :=
  if start ≤ stop then List.range' start ((stop - start) / step + 1) step else []

/-- The value of a field that a count past the largest one has come to, the
values starting over after `cycle` of them. -/
def wrap (field : Field) (cycle count : Nat) : Nat :=
  if count % cycle = 0 ∧ field.least = 1 then cycle else count % cycle

/-- The values of a range. One that ends before it starts runs through the
largest value on to the smallest. -/
def rangeValues (yearLimit : Nat) (field : Field) (start : Nat) (stop : Option Nat)
    (step : Nat) : List Nat :=
  let stop := stop.getD (field.greatest yearLimit)
  if start ≤ stop then countUp start stop step
  else match field.cycle? with
    | some cycle => (countUp start (stop + cycle) step).map (wrap field cycle)
    | none => []

namespace Item

/-- The values that an item contributes to its field. -/
def values (yearLimit : Nat) (field : Field) : Item → List Nat
  | unspecified => []
  | all => countUp field.least (field.greatest yearLimit) 1
  | value v => [v]
  | range start stop step => rangeValues yearLimit field start stop step
  | lastDay _ _ => []
  | nearestWeekday day => [day]
  | lastWeekday weekday => [weekday]
  | nthWeekday weekday _ => [weekday]

/-- The set with the values and the mark of one more item. -/
def addTo (yearLimit : Nat) (field : Field) (set : ValueSet) (item : Item) : ValueSet :=
  let set := set.insertAll (item.values yearLimit field)
  match item with
  | unspecified => set.markUnspecified
  | all => set.markAll
  | _ => set

end Item

/-- What the items of a field allow together. -/
def valueSet (yearLimit : Nat) (field : Field) (items : List Item) : ValueSet :=
  items.foldl (Item.addTo yearLimit field) .empty

end Expression

/-- How the day is chosen. -/
inductive DayRule
  /-- Every day will do. -/
  | any
  /-- The days listed in the day-of-month field. -/
  | monthDays
  /-- The day `offset` days before the last day of the month, or the weekday
  nearest to that day. -/
  | lastDay (offset : Nat) (nearestWeekday : Bool)
  /-- The weekday nearest to a day of the month. -/
  | nearestWeekday (day : Nat)
  /-- The weekdays listed in the day-of-week field. -/
  | weekDays
  /-- The last one of a weekday in the month. -/
  | lastWeekday (weekday : Nat)
  /-- The `nth` one of a weekday in the month. -/
  | nthWeekday (weekday nth : Nat)
deriving DecidableEq, Repr

namespace Expression

/-- The choice that the items of one day field make; `listed` is the choice of a
plain list. -/
def fieldDayRule (listed : DayRule) : List Item → DayRule
  | [.lastDay offset nearestWeekday] => .lastDay offset nearestWeekday
  | [.nearestWeekday day] => .nearestWeekday day
  | [.lastWeekday weekday] => .lastWeekday weekday
  | [.nthWeekday weekday nth] => .nthWeekday weekday nth
  | items => if .all ∈ items then .any else listed

/-- The choice that the two day fields make, one of them being `?`. -/
def dayRule (dayOfMonth dayOfWeek : List Item) : DayRule :=
  if .unspecified ∉ dayOfMonth then fieldDayRule .monthDays dayOfMonth
  else if .unspecified ∉ dayOfWeek then fieldDayRule .weekDays dayOfWeek
  else .any

end Expression

end CronSchedule
