import CronSchedule.Instant.Basic

/-!
# Bisection of a span of time

`bisect` narrows a span, at whose early end a test fails and at whose late end
it holds, until the ends are a second apart. Between whole seconds the midpoint
always lies inside the span; a span that begins in a leap second may be shorter
than its seconds say, and a midpoint that is not inside ends the search.
-/

namespace CronSchedule

namespace Instant

/-- A span of a second, within the one from `low` to `high`, at whose end the
test holds and at whose beginning it does not. -/
def bisect (test : Instant → Bool) (low high : Instant) : Instant × Instant :=
  let gap := high.wholeSecondsSince low
  let middle := low.addSeconds (gap / 2)
  if 1 < gap ∧ low.seconds < middle.seconds ∧ middle.seconds < high.seconds then
    if test middle then bisect test low middle else bisect test middle high
  else (low, high)
termination_by (high.seconds - low.seconds).toNat
decreasing_by
  all_goals
    rename_i h _
    simp only [gap, middle] at h
    omega

end Instant

end CronSchedule
