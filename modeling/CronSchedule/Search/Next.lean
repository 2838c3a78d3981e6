import CronSchedule.Search.Bisect
import CronSchedule.Search.Reading

/-!
# The next fire time

A schedule fires at the moments at which its zone's wall clock shows an allowed
reading. After a given instant these are of two kinds: those with a later
reading (`nextLaterReading`), and those with an earlier one, which come only
when the clock is about to be set back and repeats a span of readings
(`nextRepeatedReading`). `nextAfter` is the earlier of the two.
-/

namespace CronSchedule

namespace Schedule

/-- How many seconds ahead a clock that is set back is looked for. Hardly any clock
has repeated a longer span. -/
def repeatLookahead : Int := 3 * 3600

/-- The first moment after `after` that shows an allowed reading later than
`reading`. Readings that the clock skips are passed over. -/
def nextShowing (s : Schedule) (after : Instant) (reading : Reading) : Option Int :=
  match _h : s.nextReading reading with
  | none => none
  | some candidate =>
    match (s.zone.momentsOf candidate).find? (after.seconds < ·) with
    | some time => some time
    | none => nextShowing s after candidate
termination_by (horizon.seconds - reading.seconds).toNat
decreasing_by
  have := nextReading_bounds _h
  simp only [Reading.lt_def] at this
  omega

/-- The first fire time after `after` with a later reading than `after` has. -/
def nextLaterReading (s : Schedule) (after : Instant) : Option Int :=
  s.nextShowing after (s.zone.readingAt after.seconds)

/-- The first moment after `after` that shows an allowed reading later than
`reading` and up to `limit`, at the offset `offset`. -/
def nextAtOffset (s : Schedule) (after : Instant) (offset : Offset) (limit reading : Reading) :
    Option Int :=
  match _h : s.nextReading reading with
  | none => none
  | some candidate =>
    let time := candidate.seconds - offset.seconds
    if limit < candidate then none
    else if after.seconds < time ∧ s.zone.offsetAt time = offset then some time
    else nextAtOffset s after offset limit candidate
termination_by (horizon.seconds - reading.seconds).toNat
decreasing_by
  have := nextReading_bounds _h
  simp only [Reading.lt_def] at this
  omega

/-- The first fire time after `after` with a reading up to that of `after`, if
the clock is set back within `repeatLookahead`. The readings that come again
begin where the clock is set, at the second that `bisect` finds. -/
def nextRepeatedReading (s : Schedule) (after : Instant) : Option Int :=
  let ahead := after.addSeconds repeatLookahead
  let before := s.zone.offsetAt after.seconds
  let later := s.zone.offsetAt ahead.seconds
  if before.seconds ≤ later.seconds then none
  else
    let (_, set) := Instant.bisect (fun t => s.zone.offsetAt t.seconds == later) after ahead
    let limit := (after.addSeconds before.seconds).seconds
    let start := max (after.addSeconds later.seconds).seconds (set.seconds + later.seconds - 1)
    s.nextAtOffset after later ⟨limit⟩ ⟨start⟩

/-- The first fire time after an instant. -/
def nextAfter (s : Schedule) (after : Instant) : Option Instant :=
  let time := match s.nextLaterReading after, s.nextRepeatedReading after with
    | some forward, some repeated => some (min forward repeated)
    | some forward, none => some forward
    | none, repeated => repeated
  time.map .ofSeconds

/-- The second that the instant lies in is a fire time. -/
def isSatisfiedBy (s : Schedule) (t : Instant) : Bool :=
  s.nextAfter (.ofSeconds (t.seconds - 1)) == some t.truncate

/-- The first `count` fire times after an instant, or all if there are fewer. -/
def upcoming (s : Schedule) (after : Instant) : Nat → List Instant
  | 0 => []
  | count + 1 =>
    match s.nextAfter after with
    | some time => time :: upcoming s time count
    | none => []

/-- A moment that shows a reading is less than a day away from it. -/
theorem nextShowing_bounds {s : Schedule} {after : Instant} {reading : Reading} {time : Int}
    (h : s.nextShowing after reading = some time) :
    after.seconds < time ∧ time < horizon.seconds + 86400 := by
  fun_induction nextShowing s after reading with
  | case1 => simp at h
  | case2 reading candidate hc found hf =>
    obtain rfl : found = time := by simpa using h
    have h₁ : after.seconds < found := by simpa using List.find?_some hf
    have h₂ := Zone.natAbs_offset_lt (List.mem_of_find?_eq_some hf)
    have h₃ := (nextReading_bounds hc).2
    simp only [Reading.lt_def] at h₃
    omega
  | case3 reading candidate hc hf ih => exact ih h

theorem nextAtOffset_bounds {s : Schedule} {after : Instant} {offset : Offset}
    {limit reading : Reading} {time : Int}
    (h : s.nextAtOffset after offset limit reading = some time) :
    after.seconds < time ∧ time < horizon.seconds + 86400 := by
  fun_induction nextAtOffset s after offset limit reading with
  | case1 => simp at h
  | case2 => simp at h
  | case3 reading candidate hc found _ hf =>
    obtain rfl : found = time := by simpa using h
    have := offset.lt_day
    have h₃ := (nextReading_bounds hc).2
    simp only [Reading.lt_def] at h₃
    omega
  | case4 reading candidate hc found _ hf ih => exact ih h

theorem nextRepeatedReading_bounds {s : Schedule} {after : Instant} {time : Int}
    (h : s.nextRepeatedReading after = some time) :
    after.seconds < time ∧ time < horizon.seconds + 86400 := by
  simp only [nextRepeatedReading] at h
  split at h
  · simp at h
  · exact nextAtOffset_bounds h

/-- A fire time is a whole second, later than asked, within the years searched. -/
theorem nextAfter_bounds {s : Schedule} {after t : Instant} (h : s.nextAfter after = some t) :
    after.seconds < t.seconds ∧ t.seconds < horizon.seconds + 86400 ∧ t.nanos = 0 := by
  simp only [nextAfter, Option.map_eq_some_iff] at h
  obtain ⟨time, h, rfl⟩ := h
  refine and_assoc.1 ⟨?_, rfl⟩
  split at h
  · rename_i forward repeated hf hrep
    have h₁ := nextShowing_bounds hf
    have h₂ := nextRepeatedReading_bounds hrep
    obtain rfl : min forward repeated = time := by simpa using h
    simp only [Instant.ofSeconds]
    omega
  · rename_i hf _
    obtain rfl := Option.some.inj h
    exact nextShowing_bounds hf
  · exact nextRepeatedReading_bounds h

end Schedule

end CronSchedule
