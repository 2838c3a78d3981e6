import CronSchedule.Search.Next

/-!
# The previous fire time

There is no backward search. `previousBefore` steps back from the target, twice
as far each time, until a forward search from there finds a fire time before the
target, and then narrows the span between the two by bisection; every test is a
forward search.
-/

namespace CronSchedule

namespace Schedule

/-- The earliest second from which a fire time is searched for, two days before
1970, so that zones east of UTC still reach their own beginning of that year. -/
def earliestStart : Int := -2 * 86400

/-- The longest single step back, of about 1100 years. -/
def longestBackStep : Nat := 1100 * 366 * 86400

/-- A guess at the least distance, in seconds, between two fire times of a day:
the least gap of the first of the fields second, minute and hour that allows
more than one value. -/
def leastIncrement (s : Schedule) : Nat :=
  let gapOf (set : ValueSet) (unit : Nat) : Option Nat :=
    if set.size = 1 then none else some (set.leastGap?.getD 1 * unit)
  (gapOf (s.field .second) 1 <|> gapOf (s.field .minute) 60 <|>
    gapOf (s.field .hour) 3600).getD 86400

/-- A forward search from the second `start` finds a fire time before `target`. -/
def firesBetween (s : Schedule) (start : Int) (target : Instant) : Bool :=
  (s.nextAfter (.ofSeconds start)).any (· < target)

/-- A second, at least `step` seconds before the target, after which the
schedule fires before the target. The longest step is tried once: where it finds
nothing and leads to no second that is early enough to stop at, the search that this
stands for would take it again for ever, and there is no second here. -/
def stepBack (s : Schedule) (target : Instant) (step : Nat) : Option Int :=
  let start := max (target.addSeconds (-step)).seconds earliestStart
  if s.firesBetween start target then some start
  else if earliestStart < start ∧ 0 < step ∧ step < longestBackStep then
    stepBack s target (min (step * 2) longestBackStep)
  else none
termination_by longestBackStep - step

/-- The last fire time before an instant. There is none either where the steps back
would not end (see `stepBack`), which takes a target that lies the longest step after
the earliest second and after every fire time before it. -/
def previousBefore (s : Schedule) (target : Instant) : Option Instant :=
  match s.stepBack target s.leastIncrement with
  | none => none
  | some low =>
    let ceiling := if 0 < target.nanos then target.seconds + 1 else target.seconds
    let (low, _) := Instant.bisect (fun t => !s.firesBetween t.seconds target)
      (.ofSeconds low) (.ofSeconds (ceiling - 1))
    s.nextAfter low

/-- The first `count` fire times before an instant, the last one first. -/
def preceding (s : Schedule) (target : Instant) : Nat → List Instant
  | 0 => []
  | count + 1 =>
    match s.previousBefore target with
    | some time => time :: preceding s time count
    | none => []

end Schedule

end CronSchedule
