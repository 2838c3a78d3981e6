import CronSchedule.Calendar.Date

/-!
# Wall-clock readings

What a wall clock with a calendar shows: a date and a time of day, without a
zone. A reading is the number of seconds that the clock has counted since it
showed 1970-01-01 00:00:00, so readings are ordered and stepped as integers,
and the date and the time of day are read off that number.
-/

namespace CronSchedule

open Calendar

/-- A wall-clock reading, in whole seconds. -/
@[ext] structure Reading where
  /-- Seconds since the clock showed 1970-01-01 00:00:00. -/
  seconds : Int
deriving DecidableEq, Repr

namespace Reading

instance : LE Reading := ⟨fun a b => a.seconds ≤ b.seconds⟩

instance : LT Reading := ⟨fun a b => a.seconds < b.seconds⟩

instance (a b : Reading) : Decidable (a ≤ b) := Int.decLe a.seconds b.seconds

instance (a b : Reading) : Decidable (a < b) := Int.decLt a.seconds b.seconds

theorem le_def {a b : Reading} : a ≤ b ↔ a.seconds ≤ b.seconds := Iff.rfl

theorem lt_def {a b : Reading} : a < b ↔ a.seconds < b.seconds := Iff.rfl

protected theorem le_antisymm {a b : Reading} (h : a ≤ b) (h' : b ≤ a) : a = b :=
  Reading.ext (Int.le_antisymm h h')

/-- The clock at a time of day, on the day with this number. The parts may run
over, 24 hours or 60 minutes, and then carry into the next larger one. -/
def ofParts (day : Int) (hour minute second : Nat) : Reading :=
  ⟨day * 86400 + hour * 3600 + minute * 60 + second⟩

/-- The first second of a date. -/
def ofDate (date : Date) : Reading :=
  ofParts date.dayNumber 0 0 0

/-- The number of the day that the clock shows. -/
def dayNumber (r : Reading) : Int :=
  r.seconds / 86400

/-- Seconds since midnight. -/
def secondOfDay (r : Reading) : Nat :=
  (r.seconds % 86400).toNat

/-- The hour, from 0 to 23. -/
def hour (r : Reading) : Nat :=
  r.secondOfDay / 3600

/-- The minute of the hour. -/
def minute (r : Reading) : Nat :=
  r.secondOfDay / 60 % 60

/-- The second of the minute. -/
def second (r : Reading) : Nat :=
  r.secondOfDay % 60

/-- The date that the clock shows. -/
def date (r : Reading) : Date :=
  Date.ofDayNumber r.dayNumber

/-- The reading one second later. -/
def next (r : Reading) : Reading :=
  ⟨r.seconds + 1⟩

theorem hour_lt (r : Reading) : r.hour < 24 := by
  simp only [hour, secondOfDay]
  omega

theorem minute_lt (r : Reading) : r.minute < 60 :=
  Nat.mod_lt _ (by decide)

theorem second_lt (r : Reading) : r.second < 60 :=
  Nat.mod_lt _ (by decide)

/-- A reading is the sum of its parts. -/
theorem seconds_eq (r : Reading) :
    r.seconds = r.dayNumber * 86400 + r.hour * 3600 + r.minute * 60 + r.second := by
  simp only [dayNumber, hour, minute, second, secondOfDay]
  omega

/-- The parts of a reading put it together again. -/
theorem ofParts_parts (r : Reading) : ofParts r.dayNumber r.hour r.minute r.second = r := by
  ext
  exact (seconds_eq r).symm

end Reading

end CronSchedule
