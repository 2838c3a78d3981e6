/-!
# The fields of an expression

A schedule constrains seven parts of a wall-clock reading, from the second to
the year. `Field` names them, with the values that each may take; the largest
year is not fixed and is handed in as `yearLimit`. `Fields` holds one thing of
a kind for each field.
-/

namespace CronSchedule

/-- A part of a reading that an expression constrains. -/
inductive Field
  | second
  | minute
  | hour
  | dayOfMonth
  | month
  | dayOfWeek
  | year
deriving DecidableEq, Repr

namespace Field

/-- The fields in the order in which an expression lists them. -/
def all : List Field :=
  [second, minute, hour, dayOfMonth, month, dayOfWeek, year]

theorem mem_all (field : Field) : field ∈ all := by
  cases field <;> decide

/-- The first year that a schedule can name. -/
def firstYear : Nat := 1970

/-- The last year in which anything is searched for. -/
def lastYear : Nat := 2999

/-- How many years ahead of the current one a schedule may name. -/
def yearLookahead : Nat := 100

/-- The largest year that a schedule written in `currentYear` may name. -/
def yearLimit (currentYear : Int) : Nat :=
  min ((if 0 ≤ currentYear then currentYear.toNat else firstYear) + yearLookahead) lastYear

/-- The smallest value. -/
def least : Field → Nat
  | second | minute | hour => 0
  | dayOfMonth | month | dayOfWeek => 1
  | year => firstYear

/-- The largest value. -/
def greatest (yearLimit : Nat) : Field → Nat
  | second | minute => 59
  | hour => 23
  | dayOfMonth => 31
  | month => 12
  | dayOfWeek => 7
  | year => yearLimit

/-- After how many values counting starts over; years never do. -/
def cycle? : Field → Option Nat
  | second | minute => some 60
  | hour => some 24
  | dayOfMonth => some 31
  | month => some 12
  | dayOfWeek => some 7
  | year => none

/-- The largest step from one value to the next that may be asked for. -/
def greatestStep : Field → Nat
  | year => lastYear - firstYear
  | field => field.greatest lastYear

/-- The name that messages and reports use. -/
def name : Field → String
  | second => "second"
  | minute => "minute"
  | hour => "hour"
  | dayOfMonth => "day-of-month"
  | month => "month"
  | dayOfWeek => "day-of-week"
  | year => "year"

/-- The field constrains the day. -/
def isDay : Field → Bool
  | dayOfMonth | dayOfWeek => true
  | _ => false

/-- The names that stand for the values of a field, from the least value on. -/
def valueNames : Field → List String
  | month =>
    ["JAN", "FEB", "MAR", "APR", "MAY", "JUN", "JUL", "AUG", "SEP", "OCT", "NOV", "DEC"]
  | dayOfWeek => ["SUN", "MON", "TUE", "WED", "THU", "FRI", "SAT"]
  | _ => []

/-- The value that a name stands for. -/
def valueOfName? (field : Field) (name : String) : Option Nat :=
  (field.valueNames.idxOf? name).map (· + field.least)

end Field

/-- One thing for each of the seven fields. -/
structure Fields (α : Type) where
  second : α
  minute : α
  hour : α
  dayOfMonth : α
  month : α
  dayOfWeek : α
  year : α
deriving DecidableEq, Repr

namespace Fields

variable {α β ε : Type}

/-- What is held for a field. -/
def get (fields : Fields α) : Field → α
  | .second => fields.second
  | .minute => fields.minute
  | .hour => fields.hour
  | .dayOfMonth => fields.dayOfMonth
  | .month => fields.month
  | .dayOfWeek => fields.dayOfWeek
  | .year => fields.year

/-- What is held, paired with its field, in the order of an expression. -/
def toList (fields : Fields α) : List (Field × α) :=
  Field.all.map fun field => (field, fields.get field)

/-- The same kind of thing made for every field. -/
def ofFunction (f : Field → α) : Fields α where
  second := f .second
  minute := f .minute
  hour := f .hour
  dayOfMonth := f .dayOfMonth
  month := f .month
  dayOfWeek := f .dayOfWeek
  year := f .year

/-- Another thing for each field, made from the first. -/
def map (f : Field → α → β) (fields : Fields α) : Fields β :=
  ofFunction fun field => f field (fields.get field)

/-- As `map`, but each step may fail. The first field, in the order of an
expression, that fails decides. -/
def mapExcept (f : Field → α → Except ε β) (fields : Fields α) : Except ε (Fields β) := do
  let second ← f .second fields.second
  let minute ← f .minute fields.minute
  let hour ← f .hour fields.hour
  let dayOfMonth ← f .dayOfMonth fields.dayOfMonth
  let month ← f .month fields.month
  let dayOfWeek ← f .dayOfWeek fields.dayOfWeek
  let year ← f .year fields.year
  return ⟨second, minute, hour, dayOfMonth, month, dayOfWeek, year⟩

@[simp] theorem get_ofFunction (f : Field → α) (field : Field) :
    (ofFunction f).get field = f field := by
  cases field <;> rfl

@[simp] theorem get_map (f : Field → α → β) (fields : Fields α) (field : Field) :
    (fields.map f).get field = f field (fields.get field) := by
  simp [map]

end Fields

end CronSchedule
