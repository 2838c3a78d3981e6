import CronSchedule.Calendar.Reading

/-!
# Time zones

A zone tells how far its wall clock is ahead of UTC. The offset is constant
between changes: `offsetAt` looks it up for a moment, `readingAt` gives what
the wall clock shows then, and `momentsOf` goes the other way and lists every
moment at which the clock shows a reading. A reading that the clock skips has
none, and one that it repeats has two.
-/

namespace CronSchedule

/-- How far a wall clock is ahead of UTC, in seconds; always less than a day. -/
@[ext] structure Offset where
  seconds : Int
  lt_day : seconds.natAbs < 86400 := by decide
deriving DecidableEq, Repr

namespace Offset

/-- The wall clock of UTC. -/
def zero : Offset := .mk 0

end Offset

/-- A change of a zone's offset: from the second `time` on, counted from
1970-01-01T00:00:00Z, the offset is `offset`. -/
structure Change where
  time : Int
  offset : Offset
deriving DecidableEq, Repr

/-- A time zone: its name, the offset before the first change, and the changes
in order of time. -/
structure Zone where
  name : String
  base : Offset
  changes : List Change
deriving DecidableEq, Repr

namespace Zone

/-- The offset in force at a moment, and the changes after it. `current` is the offset
in force before the listed changes. -/
def spanAmong (time : Int) (current : Offset) : List Change → Offset × List Change
  | [] => (current, [])
  | change :: later =>
    if time < change.time then (current, change :: later)
    else spanAmong time change.offset later

/-- The offset in force at a moment, and the changes after it. -/
def spanAt (zone : Zone) (time : Int) : Offset × List Change :=
  spanAmong time zone.base zone.changes

/-- The offset in force at a moment. -/
def offsetAt (zone : Zone) (time : Int) : Offset :=
  (zone.spanAt time).1

/-- What the wall clock shows at a moment. -/
def readingAt (zone : Zone) (time : Int) : Reading :=
  ⟨time + (zone.offsetAt time).seconds⟩

/-- The moments at which the wall clock shows a reading, in order. `since` is
when the offset `current` came into force, if it has not always been. -/
def momentsAmong (reading : Reading) (since : Option Int) (current : Offset) :
    List Change → List Int
  | [] =>
    let time := reading.seconds - current.seconds
    if since.all (· ≤ time) then [time] else []
  | change :: later =>
    let time := reading.seconds - current.seconds
    let rest := momentsAmong reading (some change.time) change.offset later
    if since.all (· ≤ time) ∧ time < change.time then time :: rest else rest

/-- The moments at which the wall clock shows a reading, in order of time. Offsets are
less than a day, so only changes within a day of the reading have a say. -/
def momentsOf (zone : Zone) (reading : Reading) : List Int :=
  let (offset, later) := zone.spanAt (reading.seconds - 86400)
  momentsAmong reading none offset (later.takeWhile (·.time ≤ reading.seconds + 86400))

/-- UTC, whose wall clock never changes. -/
def utc : Zone := ⟨"UTC", .zero, []⟩

/-- Whatever the wall clock shows is less than a day off. -/
theorem natAbs_offset_lt {reading : Reading} {time : Int} :
    ∀ {changes : List Change} {since : Option Int} {current : Offset},
      time ∈ momentsAmong reading since current changes →
        (reading.seconds - time).natAbs < 86400
  | [], since, current, h => by
    have := current.lt_day
    simp only [momentsAmong] at h
    split at h <;> simp at h
    omega
  | change :: later, since, current, h => by
    have := current.lt_day
    simp only [momentsAmong] at h
    split at h
    · rcases List.mem_cons.1 h with rfl | h
      · omega
      · exact natAbs_offset_lt h
    · exact natAbs_offset_lt h

end Zone

end CronSchedule
