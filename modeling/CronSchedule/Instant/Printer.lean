import CronSchedule.Instant.Basic
import CronSchedule.Text.Decimal
import CronSchedule.Zone.Basic

/-!
# Writing instants

An instant is written as RFC 3339 has it: the date and the time that a wall
clock shows, and how far that clock is ahead of UTC, which is a `Z` for UTC
itself (`rfc3339Utc`) or hours and minutes (`rfc3339`).
-/

namespace CronSchedule

namespace Instant

open Text

/-- A year: four digits from 0 to 9999, and beyond that a sign and at least four. -/
def yearText (year : Int) : List Char :=
  if 0 ≤ year ∧ year ≤ 9999 then padded 4 year.toNat
  else (if year < 0 then '-' else '+') :: padded 4 year.natAbs

/-- The part of a second, in the fewest of 0, 3, 6 and 9 digits. -/
def fractionText (nanos : Nat) : List Char :=
  if nanos = 0 then []
  else if nanos % 1000000 = 0 then '.' :: padded 3 (nanos / 1000000)
  else if nanos % 1000 = 0 then '.' :: padded 6 (nanos / 1000)
  else '.' :: padded 9 nanos

/-- The date and the time of a reading and the part of a second past it. A leap
second is written as the second after the one that it prolongs. -/
def readingText (reading : Reading) (nanos : Nat) : List Char :=
  let date := reading.date
  let second := reading.second + nanos / nanosPerSecond
  yearText date.year ++ '-' :: padded 2 date.month ++ '-' :: padded 2 date.day ++
    'T' :: padded 2 reading.hour ++ ':' :: padded 2 reading.minute ++ ':' :: padded 2 second ++
    fractionText (nanos % nanosPerSecond)

/-- An offset in hours and minutes. Seconds are rounded to the nearest minute, a
half away from UTC. -/
def offsetText (offset : Offset) : List Char :=
  let minutes := (offset.seconds.natAbs + 30) / 60
  (if offset.seconds < 0 then '-' else '+') ::
    padded 2 (minutes / 60) ++ ':' :: padded 2 (minutes % 60)

/-- The instant as the wall clock of a zone shows it, with the offset. -/
def rfc3339 (t : Instant) (zone : Zone) : String :=
  String.ofList <|
    readingText (zone.readingAt t.seconds) t.nanos ++ offsetText (zone.offsetAt t.seconds)

/-- The instant as the wall clock of UTC shows it, with a `Z`. -/
def rfc3339Utc (t : Instant) : String :=
  String.ofList (readingText ⟨t.seconds⟩ t.nanos ++ ['Z'])

end Instant

end CronSchedule
