/-!
# Instants

Moments in time, counted from 1970-01-01T00:00:00Z in seconds of 86400 to the
day, with a part below the second in nanoseconds. Nanoseconds from 10⁹ up to
2·10⁹ stand for an inserted leap second: 23:59:60 is the second 23:59:59 with
10⁹ nanoseconds more. The leap second has a length only next to the instant
that names it, which `addSeconds` and `wholeSecondsSince` take into account.

Time has no ends here. A representation with years of 19 bits has them, in the years
-262143 and 262142, and a query that steps over one stops there. What is said about
instants is meant for those in between.
-/

namespace CronSchedule

/-- A moment in time. -/
@[ext] structure Instant where
  /-- Whole seconds since 1970-01-01T00:00:00Z, rounded down. -/
  seconds : Int
  /-- Nanoseconds past the whole second; from 10⁹ on, inside a leap second. -/
  nanos : Nat
deriving DecidableEq, Repr

namespace Instant

/-- Nanoseconds in a second. -/
def nanosPerSecond : Nat := 1000000000

/-- The beginning of a second. -/
def ofSeconds (seconds : Int) : Instant := ⟨seconds, 0⟩

/-- The instant lies inside a leap second. -/
def InLeapSecond (t : Instant) : Prop := nanosPerSecond ≤ t.nanos

instance (t : Instant) : Decidable t.InLeapSecond := by
  unfold InLeapSecond
  infer_instance

/-- Earlier second first, and within a second fewer nanoseconds first. -/
instance : LT Instant :=
  ⟨fun a b => a.seconds < b.seconds ∨ (a.seconds = b.seconds ∧ a.nanos < b.nanos)⟩

instance : LE Instant :=
  ⟨fun a b => a.seconds < b.seconds ∨ (a.seconds = b.seconds ∧ a.nanos ≤ b.nanos)⟩

theorem lt_def {a b : Instant} :
    a < b ↔ a.seconds < b.seconds ∨ (a.seconds = b.seconds ∧ a.nanos < b.nanos) := Iff.rfl

theorem le_def {a b : Instant} :
    a ≤ b ↔ a.seconds < b.seconds ∨ (a.seconds = b.seconds ∧ a.nanos ≤ b.nanos) := Iff.rfl

instance (a b : Instant) : Decidable (a < b) := decidable_of_iff' _ lt_def

instance (a b : Instant) : Decidable (a ≤ b) := decidable_of_iff' _ le_def

/-- The later of two instants. -/
instance : Max Instant := ⟨fun a b => if a ≤ b then b else a⟩

/-- The earlier of two instants. -/
instance : Min Instant := ⟨fun a b => if a ≤ b then a else b⟩

/-- The beginning of the second that the instant lies in. -/
def truncate (t : Instant) : Instant := ofSeconds t.seconds

/-- The instant some seconds later, or earlier if `k` is negative. Leaving a
leap second forwards, its nanoseconds are those of the second that follows it;
leaving it backwards, the leap second itself counts. -/
def addSeconds (t : Instant) (k : Int) : Instant :=
  if t.InLeapSecond then
    if 0 < k then ⟨t.seconds + k, t.nanos - nanosPerSecond⟩
    else if k < 0 then ⟨t.seconds + 1 + k, t.nanos - nanosPerSecond⟩
    else t
  else ⟨t.seconds + k, t.nanos⟩

/-- Whole seconds from `earlier` to `later`, a remainder below the second
dropped. Days have 86400 seconds; a leap second counts when the two instants
have different times of day and the one with the smaller time lies in it. -/
def wholeSecondsSince (later earlier : Instant) : Int :=
  let leap : Int :=
    if earlier.seconds % 86400 < later.seconds % 86400 ∧ earlier.InLeapSecond then 1
    else if later.seconds % 86400 < earlier.seconds % 86400 ∧ later.InLeapSecond then -1
    else 0
  let nanos : Int := (later.nanos : Int) - earlier.nanos
  let seconds := later.seconds - earlier.seconds + leap + nanos / 1000000000
  if seconds < 0 ∧ 0 < nanos % 1000000000 then seconds + 1 else seconds

theorem addSeconds_of_not_leap {t : Instant} (h : ¬ t.InLeapSecond) (k : Int) :
    t.addSeconds k = ⟨t.seconds + k, t.nanos⟩ := by
  simp [addSeconds, h]

/-- Between whole seconds the distance is the difference. -/
theorem wholeSecondsSince_ofSeconds (a b : Int) :
    (ofSeconds a).wholeSecondsSince (ofSeconds b) = a - b := by
  simp [wholeSecondsSince, ofSeconds, InLeapSecond, nanosPerSecond]

end Instant

end CronSchedule
