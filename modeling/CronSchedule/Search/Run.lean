import CronSchedule.Search.Next

/-!
# Runs of fire times

A schedule may fire every second for a while. `firstMissAfter` follows such a
run to the first second that is not a fire time. It does not go through the run
second by second: where every second of a minute, an hour or a day is a fire
time, `endOfBlock` leads to the end of it at once.
-/

namespace CronSchedule

namespace Schedule

/-- Every value of the field is allowed. -/
def isFull (s : Schedule) (field : Field) : Bool :=
  (s.field field).size == field.greatest Field.lastYear - field.least + 1

/-- The ends of the day, the hour and the minute around a reading, the day
first, as far as every second of them is allowed on an allowed date. -/
def blockEnds (s : Schedule) (reading : Reading) : List Reading :=
  if s.isFull .second then
    (if s.isFull .minute then
      (if s.isFull .hour then [.ofParts reading.dayNumber 23 59 59] else []) ++
        [.ofParts reading.dayNumber reading.hour 59 59]
    else []) ++ [.ofParts reading.dayNumber reading.hour reading.minute 59]
  else []

/-- The last second of the longest block around a fire time, or the fire time
itself. A block in which the clock is set does not count. -/
def endOfBlock (s : Schedule) (time : Int) : Int :=
  let reading := s.zone.readingAt time
  let ends := (s.blockEnds reading).map fun final =>
    (final, time + (final.seconds - reading.seconds))
  match ends.find? fun (final, last) => s.zone.readingAt last = final with
  | some (_, last) => last
  | none => time

/-- A block ends no earlier than the reading that it is around. -/
theorem le_of_mem_blockEnds {s : Schedule} {reading final : Reading}
    (h : final ∈ s.blockEnds reading) : reading ≤ final := by
  have hsum := reading.seconds_eq
  have := reading.hour_lt
  have := reading.minute_lt
  have := reading.second_lt
  have hmem : final = .ofParts reading.dayNumber 23 59 59 ∨
      final = .ofParts reading.dayNumber reading.hour 59 59 ∨
      final = .ofParts reading.dayNumber reading.hour reading.minute 59 := by
    simp only [blockEnds] at h
    split at h
    · split at h
      · split at h
        · simpa using h
        · exact .inr (by simpa using h)
      · exact .inr (.inr (by simpa using h))
    · simp at h
  rw [Reading.le_def]
  rcases hmem with rfl | rfl | rfl
  all_goals
    simp only [Reading.ofParts]
    omega

theorem le_endOfBlock (s : Schedule) (time : Int) : time ≤ s.endOfBlock time := by
  simp only [endOfBlock]
  split
  · rename_i final last h
    have hm := List.mem_of_find?_eq_some h
    simp only [List.mem_map, Prod.mk.injEq] at hm
    obtain ⟨e, he, rfl, rfl⟩ := hm
    have := le_of_mem_blockEnds he
    rw [Reading.le_def] at this
    omega
  · exact Int.le_refl _

/-- The first second after `last` that is not a fire time. -/
def runEnd (s : Schedule) (last : Int) : Int :=
  match h : s.nextAfter (.ofSeconds last) with
  | some next => if next.seconds = last + 1 then runEnd s (s.endOfBlock next.seconds) else last + 1
  | none => last + 1
termination_by (horizon.seconds + 86400 - last).toNat
decreasing_by
  have h₁ := nextAfter_bounds h
  have h₂ := le_endOfBlock s next.seconds
  simp only [Instant.ofSeconds] at h₁
  omega

/-- The first second after an instant's own that is not a fire time. -/
def firstMissAfter (s : Schedule) (after : Instant) : Instant :=
  .ofSeconds (s.runEnd after.seconds)

end Schedule

end CronSchedule
