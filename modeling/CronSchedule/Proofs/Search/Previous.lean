import CronSchedule.Proofs.Search.Next
import CronSchedule.Proofs.Search.Spacing

/-!
# The previous fire time is the last one before the target

The search for the previous fire time has two loops, and neither is bounded:
steps back that double (`StepsBack`), and a span that is halved (`Halves`). A
`PreviousRun` is a whole run of both. The first loop is cut off here once its step
has reached the longest one. The run ends exactly when that step is enough
(`LongestStepEnds`), and then with the same answer (`previousRun_iff`). It is enough
for a target `WithinReach`, and the answer is the last fire time before the target
(`previousBefore_eq_iff`).
-/

namespace CronSchedule

namespace Schedule

variable {s : Schedule} {target low high last : Instant} {step : Nat} {t start : Int}
variable {test : Instant → Bool} {yearLimit : Nat}

/-! ## The loops -/

/-- The second that a step back from the target leads to. -/
def backStart (target : Instant) (step : Nat) : Int :=
  max (target.addSeconds (-step)).seconds earliestStart

/-- **The steps back**, with no bound on their number: they end where the schedule
fires before the target, or at the earliest second. -/
inductive StepsBack (s : Schedule) (target : Instant) : Nat → Option Int → Prop
  /-- The schedule fires between here and the target. -/
  | found {step : Nat} : s.firesBetween (backStart target step) target = true →
      StepsBack s target step (some (backStart target step))
  /-- It does not, and there is nothing earlier. -/
  | exhausted {step : Nat} : s.firesBetween (backStart target step) target = false →
      backStart target step ≤ earliestStart → StepsBack s target step none
  /-- It does not, and the next step is twice as long. -/
  | further {step : Nat} {result : Option Int} :
      s.firesBetween (backStart target step) target = false →
      earliestStart < backStart target step →
      StepsBack s target (min (step * 2) longestBackStep) result →
      StepsBack s target step result

/-- **The halving of a span**, with no bound on the number of halvings: it ends
with the beginning of a span of a second at most. -/
inductive Halves (test : Instant → Bool) : Instant → Instant → Instant → Prop
  /-- The span is a second at most. -/
  | done {low high : Instant} : high.wholeSecondsSince low ≤ 1 → Halves test low high low
  /-- The test holds in the middle. -/
  | early {low high last : Instant} : 1 < high.wholeSecondsSince low →
      test (low.addSeconds (high.wholeSecondsSince low / 2)) = true →
      Halves test low (low.addSeconds (high.wholeSecondsSince low / 2)) last →
      Halves test low high last
  /-- The test fails in the middle. -/
  | late {low high last : Instant} : 1 < high.wholeSecondsSince low →
      test (low.addSeconds (high.wholeSecondsSince low / 2)) = false →
      Halves test (low.addSeconds (high.wholeSecondsSince low / 2)) high last →
      Halves test low high last

/-- The first second from the target on. -/
def ceiling (target : Instant) : Int :=
  if 0 < target.nanos then target.seconds + 1 else target.seconds

/-- **A whole run of the search for the previous fire time**, and its answer. -/
inductive PreviousRun (s : Schedule) (target : Instant) : Option Instant → Prop
  /-- The steps back find nothing. -/
  | none : StepsBack s target s.leastIncrement none → PreviousRun s target none
  /-- They find a span that halving narrows to its last fire time. -/
  | some {low : Int} {last : Instant} : StepsBack s target s.leastIncrement (some low) →
      Halves (fun t => !s.firesBetween t.seconds target) (.ofSeconds low)
        (.ofSeconds (ceiling target - 1)) last →
      PreviousRun s target (s.nextAfter last)

/-- The steps back go one way only. -/
theorem StepsBack.unique {result other : Option Int} (h : StepsBack s target step result)
    (h' : StepsBack s target step other) : other = result := by
  induction h with
  | found hfires =>
    cases h' with
    | found => rfl
    | exhausted hno | further hno => simp [hfires] at hno
  | exhausted hno hle =>
    cases h' with
    | found hfires => simp [hno] at hfires
    | exhausted => rfl
    | further _ hlt => exact absurd hlt (Int.not_lt.2 hle)
  | further hno hlt _ ih =>
    cases h' with
    | found hfires => simp [hno] at hfires
    | exhausted _ hle => exact absurd hlt (Int.not_lt.2 hle)
    | further _ _ hrest => exact ih hrest

/-- And so does the halving. -/
theorem Halves.unique {other : Instant} (h : Halves test low high last)
    (h' : Halves test low high other) : other = last := by
  -- The induction is on one run; each of its steps rules the others out for the other run.
  induction h with
  | done hle =>
    cases h' with
    | done => rfl
    | early hlt | late hlt => exact absurd hlt (Int.not_lt.2 hle)
  | early hlt htest _ ih =>
    cases h' with
    | done hle => exact absurd hlt (Int.not_lt.2 hle)
    | early _ _ hrest => exact ih hrest
    | late _ hno => simp [htest] at hno
  | late hlt hno _ ih =>
    cases h' with
    | done hle => exact absurd hlt (Int.not_lt.2 hle)
    | early _ htest => simp [hno] at htest
    | late _ _ hrest => exact ih hrest

/-- **A run has one answer.** -/
theorem PreviousRun.unique {answer other : Option Instant} (h : PreviousRun s target answer)
    (h' : PreviousRun s target other) : other = answer := by
  cases h with
  | none hsteps =>
    cases h' with
    | none => rfl
    | some hsteps' => cases hsteps.unique hsteps'
  | some hsteps hhalves =>
    cases h' with
    | none hsteps' => cases hsteps.unique hsteps'
    | some hsteps' hhalves' =>
      obtain rfl := Option.some.inj (hsteps.unique hsteps')
      rw [hhalves.unique hhalves']

/-- **The target is within reach of the longest step back**, from the earliest
second or from a fire time before the target. -/
def WithinReach (s : Schedule) (target : Instant) : Prop :=
  target ≤ .ofSeconds (earliestStart + longestBackStep) ∨
    ∃ t, s.FiresAt t ∧ .ofSeconds t < target ∧
      target.addSeconds (-longestBackStep) < .ofSeconds t

/-- **The longest step back is enough**: it leads to the earliest second, or the schedule
fires between where it leads and the target. -/
def LongestStepEnds (s : Schedule) (target : Instant) : Prop :=
  backStart target longestBackStep ≤ earliestStart ∨
    s.firesBetween (backStart target longestBackStep) target = true

/-- From the second that is found the schedule fires before the target; if none is,
it never does. -/
def FiresFrom (s : Schedule) (target : Instant) : Option Int → Prop
  | some low => s.firesBetween low target = true
  | none => ∀ t, s.FiresAt t → ¬ .ofSeconds t < target

theorem ofSeconds_lt_iff : .ofSeconds t < target ↔ t < ceiling target := by
  unfold ceiling
  split <;> simp [Instant.lt_def, Instant.ofSeconds] <;> omega

/-! ## Fire times and single steps -/

/-- All fire times are after the earliest second that is searched from. -/
theorem earliestStart_lt (hs : s.WellFormed yearLimit) (h : s.FiresAt t) : earliestStart < t := by
  obtain ⟨year, hmem, heq⟩ := h.2.2.2
  have hyear := (hs.bounds _ _ hmem).1
  simp only [Field.least, Field.firstYear] at hyear
  -- No listed year lies before 1970, and no clock is ahead of UTC by more than a day.
  have hfirst : ¬ s.zone.readingAt t < .ofDate ⟨1970, 1, 1⟩ := by
    rw [Reading.lt_ofDate_month_iff _ _ (Nat.le_refl 1) (by decide)]
    have := (s.zone.readingAt t).valid_date.1
    omega
  have hoffset := (s.zone.offsetAt t).lt_day
  have hzero : (Reading.ofDate ⟨1970, 1, 1⟩).seconds = 0 := by decide
  simp only [Reading.lt_def, Zone.readingAt, hzero, earliestStart] at hfirst ⊢
  omega

/-- Backwards out of a leap second, the seconds count from its end. -/
theorem seconds_addSeconds_neg (target : Instant) {k : Int} (hk : 0 < k) :
    (target.addSeconds (-k)).seconds =
      (if target.InLeapSecond then target.seconds + 1 else target.seconds) - k := by
  unfold Instant.addSeconds
  split
  · rw [if_neg (by omega), if_pos (by omega)]
    rfl
  · rfl

theorem leastIncrement_le_longest (hs : s.WellFormed yearLimit) :
    s.leastIncrement ≤ longestBackStep :=
  (leastIncrement_le_day hs).trans (by decide)

/-- A longer step leads no less far. -/
theorem backStart_anti {other : Nat} (hpos : 0 < step) (hle : step ≤ other) :
    backStart target other ≤ backStart target step := by
  have hstep := seconds_addSeconds_neg target (by omega : (0 : Int) < step)
  have hother := seconds_addSeconds_neg target (by omega : (0 : Int) < other)
  simp only [backStart]
  omega

/-- **The steps back end** where the longest one is enough, and where they are cut off. -/
theorem stepsBack_stepBack (hends : s.LongestStepEnds target) (hpos : 0 < step)
    (hle : step ≤ longestBackStep) : StepsBack s target step (s.stepBack target step) := by
  fun_induction stepBack s target step with
  | case1 step start hfires => exact .found hfires
  | case2 step start hfires hagain ih =>
    have : 0 < longestBackStep := by decide
    exact .further (Bool.eq_false_iff.2 hfires) hagain.1 (ih (by omega) (by omega))
  | case3 step start hfires hstop =>
    -- They are cut off at the longest step, and this only comes when nothing is earlier.
    by_cases hlate : earliestStart < backStart target step
    · obtain rfl : step = longestBackStep :=
        Nat.le_antisymm hle (Nat.not_lt.1 fun hlt => hstop ⟨hlate, hpos, hlt⟩)
      exact absurd (hends.resolve_left (Int.not_le.2 hlate)) hfires
    · exact .exhausted (Bool.eq_false_iff.2 hfires) (Int.not_lt.1 hlate)

/-- **The halving ends**, and where the model's bisection does: in a bracket the
midpoint of more than a second is always inside. -/
theorem halves_bisect (h : Instant.Bracket test low high) :
    Halves test low high (Instant.bisect test low high).1 := by
  fun_induction Instant.bisect test low high with
  | case1 low high gap middle hinside htest ih =>
    exact .early hinside.1 htest (ih (h.early htest hinside.2.1))
  | case2 low high gap middle hinside htest ih =>
    have hfails := Bool.eq_false_iff.2 htest
    exact .late hinside.1 hfails (ih (h.late hfails hinside.2.2))
  | case3 low high gap middle hend => exact .done (h.gap_le_one hend)

/-! ## The steps back -/

section

variable (hs : s.WellFormed yearLimit) (hlimit : yearLimit ≤ Field.lastYear)
  (hspaced : s.zone.Spaced) (hback : s.zone.SetsBackAtMost repeatLookahead)
include hs hlimit hspaced hback

/-- The test of both loops: a fire time lies between a second and the target. -/
theorem firesBetween_iff : s.firesBetween start target = true ↔
    ∃ t, start < t ∧ s.FiresAt t ∧ .ofSeconds t < target := by
  obtain ⟨answer, heq, hfirst⟩ := nextAfter_isFirst hs hlimit hspaced hback
    (not_leap_ofSeconds start)
  rw [firesBetween, heq]
  cases answer with
  | none =>
    exact iff_of_false nofun fun ⟨t, hlt, hfires, _⟩ => hfirst t ⟨hlt, hfires⟩
  | some first =>
    obtain ⟨⟨hlt, hfires⟩, hleast⟩ := hfirst
    have hany : (Option.map Instant.ofSeconds (some first)).any (· < target) = true ↔
        Instant.ofSeconds first < target := by simp
    rw [hany]
    constructor
    · exact fun htarget => ⟨first, hlt, hfires, htarget⟩
    · rintro ⟨t, ht, htfires, htarget⟩
      have := hleast t ⟨ht, htfires⟩
      rw [ofSeconds_lt_iff] at htarget ⊢
      omega

theorem firesBetween_eq_false : s.firesBetween start target = false ↔
    ∀ t, start < t → s.FiresAt t → ¬ .ofSeconds t < target := by
  rw [← Bool.not_eq_true, firesBetween_iff hs hlimit hspaced hback]
  simp only [not_exists, not_and]

/-- From earlier on, the schedule fires all the more. -/
theorem firesBetween_mono {earlier : Int} (hle : earlier ≤ start)
    (h : s.firesBetween start target = true) : s.firesBetween earlier target = true := by
  obtain ⟨t, hlt, hfires⟩ := (firesBetween_iff hs hlimit hspaced hback).1 h
  exact (firesBetween_iff hs hlimit hspaced hback).2 ⟨t, Int.lt_of_le_of_lt hle hlt, hfires⟩

/-- For a target within reach the longest step is enough. -/
theorem longestStepEnds_of_withinReach (hreach : s.WithinReach target) :
    s.LongestStepEnds target := by
  have hlongest := seconds_addSeconds_neg target (by decide : (0 : Int) < longestBackStep)
  rcases hreach with hearly | ⟨t, hfires, hlt, hnear⟩
  · -- Then the step leads to the earliest second.
    left
    have hbase : (if target.InLeapSecond then target.seconds + 1 else target.seconds) ≤
        earliestStart + longestBackStep := by
      simp only [Instant.le_def, Instant.ofSeconds] at hearly
      split
      · rename_i hleap
        have : 0 < target.nanos := Nat.lt_of_lt_of_le (by decide) hleap
        omega
      · omega
    simp only [backStart]
    omega
  · refine .inr ((firesBetween_iff hs hlimit hspaced hback).2 ⟨t, ?_, hfires, hlt⟩)
    have := earliestStart_lt hs hfires
    have := lt_ofSeconds_iff.1 hnear
    simp only [backStart]
    omega

/-- **Only where the longest step is enough do the steps back end**: what a shorter one
finds, the longest one finds as well. -/
theorem StepsBack.longestStepEnds {result : Option Int} (h : StepsBack s target step result)
    (hpos : 0 < step) (hle : step ≤ longestBackStep) : s.LongestStepEnds target := by
  induction h with
  | found hfires =>
    exact .inr (firesBetween_mono hs hlimit hspaced hback (backStart_anti hpos hle) hfires)
  | exhausted _ hearly => exact .inl (Int.le_trans (backStart_anti hpos hle) hearly)
  | further _ _ _ ih =>
    have : 0 < longestBackStep := by decide
    exact ih (by omega) (by omega)

/-- What the steps back have found. -/
theorem StepsBack.spec {result : Option Int} (h : StepsBack s target step result) :
    s.FiresFrom target result := by
  induction h with
  | found hfires => exact hfires
  | exhausted hfires hle =>
    exact fun t ht => (firesBetween_eq_false hs hlimit hspaced hback).1 hfires t
      (Int.lt_of_le_of_lt hle (earliestStart_lt hs ht)) ht
  | further _ _ _ ih => exact ih

/-- Before a fire time before the target, the test of the halving fails, and at
the last second before the target it holds. -/
theorem bracket_of_firesBetween (h : s.firesBetween start target = true) :
    Instant.Bracket (fun t => !s.firesBetween t.seconds target) (.ofSeconds start)
      (.ofSeconds (ceiling target - 1)) := by
  obtain ⟨t, hlt, hfires, htarget⟩ := (firesBetween_iff hs hlimit hspaced hback).1 h
  rw [ofSeconds_lt_iff] at htarget
  refine ⟨?_, rfl, not_leap_ofSeconds start, ?_, ?_⟩
  · simp only [Instant.ofSeconds]
    omega
  · exact congrArg Bool.not h
  · refine congrArg Bool.not ((firesBetween_eq_false hs hlimit hspaced hback).2 fun t' ht' _ => ?_)
    rw [ofSeconds_lt_iff]
    simp only [Instant.ofSeconds] at ht'
    omega

/-- **The answer is the last fire time before the target.** The first fire time
after the second that is found comes with the next second, and nothing later
does. -/
theorem previousBefore_isLast (hends : s.LongestStepEnds target) :
    ∃ answer, s.previousBefore target = answer.map .ofSeconds ∧
      IsFirst (· ≥ ·) (fun t => .ofSeconds t < target ∧ s.FiresAt t) answer := by
  have hspec := (stepsBack_stepBack hends s.leastIncrement_pos
    (leastIncrement_le_longest hs)).spec hs hlimit hspaced hback
  unfold previousBefore
  revert hspec
  cases s.stepBack target s.leastIncrement with
  | none => exact fun hspec => ⟨none, rfl, fun t ht => hspec t ht.2 ht.1⟩
  | some low =>
    intro hspec
    obtain ⟨hbracket, -, hone, -⟩ :=
      Instant.bisect_spec (bracket_of_firesBetween hs hlimit hspaced hback hspec)
    change ∃ answer : Option Int, s.nextAfter (Instant.bisect
      (fun t => !s.firesBetween t.seconds target) (.ofSeconds low)
      (.ofSeconds (ceiling target - 1))).1 = answer.map .ofSeconds ∧ _
    generalize Instant.bisect (fun t => !s.firesBetween t.seconds target) (.ofSeconds low)
      (.ofSeconds (ceiling target - 1)) = span at *
    have hfires := hbracket.fails
    have hno := hbracket.holds
    rw [Bool.not_eq_false', firesBetween_iff hs hlimit hspaced hback] at hfires
    rw [Bool.not_eq_true', firesBetween_eq_false hs hlimit hspaced hback] at hno
    -- The first fire time after the span begins is before the target, and comes a second later.
    obtain ⟨answer, heq, hfirst⟩ := nextAfter_isFirst hs hlimit hspaced hback hbracket.not_leap
    obtain ⟨t, hlt, htfires, htarget⟩ := hfires
    refine ⟨answer, heq, ?_⟩
    cases answer with
    | none => exact absurd ⟨hlt, htfires⟩ (hfirst t)
    | some first =>
      refine ⟨⟨?_, hfirst.1.2⟩, fun t' ht' => ?_⟩
      · have := hfirst.2 t ⟨hlt, htfires⟩
        rw [ofSeconds_lt_iff] at htarget ⊢
        omega
      · refine Int.not_lt.1 fun hlt' => hno t' ?_ ht'.2 ht'.1
        have := hfirst.1.1
        omega

/-- Where the longest step is enough, the search ends with this answer. -/
theorem previousRun_previousBefore (hends : s.LongestStepEnds target) :
    s.PreviousRun target (s.previousBefore target) := by
  have hsteps := stepsBack_stepBack hends s.leastIncrement_pos (leastIncrement_le_longest hs)
  have hspec := hsteps.spec hs hlimit hspaced hback
  unfold previousBefore
  revert hsteps hspec
  cases s.stepBack target s.leastIncrement with
  | none => exact fun hsteps _ => .none hsteps
  | some low =>
    exact fun hsteps hspec =>
      .some hsteps (halves_bisect (bracket_of_firesBetween hs hlimit hspaced hback hspec))

/-- **The search ends exactly when the longest step is enough**, and then with this answer. -/
theorem previousRun_iff {answer : Option Instant} : s.PreviousRun target answer ↔
    s.LongestStepEnds target ∧ answer = s.previousBefore target := by
  constructor
  · intro hrun
    have hends : s.LongestStepEnds target := by
      cases hrun with
      | none hsteps | some hsteps =>
        exact hsteps.longestStepEnds hs hlimit hspaced hback s.leastIncrement_pos
          (leastIncrement_le_longest hs)
    exact ⟨hends, (previousRun_previousBefore hs hlimit hspaced hback hends).unique hrun⟩
  · rintro ⟨hends, rfl⟩
    exact previousRun_previousBefore hs hlimit hspaced hback hends

end

/-- **The search for the previous fire time ends, and its answer is the last second
before the target at which the schedule fires**; there is none exactly when the
schedule never fires before the target. -/
theorem previousBefore_eq_iff {currentYear : Int} {zone : Zone} {text : String}
    (h : read (Field.yearLimit currentYear) zone text = .ok s) (hspaced : zone.Spaced)
    (hback : zone.SetsBackAtMost repeatLookahead) (hreach : s.WithinReach target) :
    (∀ answer, s.PreviousRun target answer ↔ answer = s.previousBefore target) ∧
    (∀ t, s.previousBefore target = some (.ofSeconds t) ↔
      .ofSeconds t < target ∧ s.FiresAt t ∧
        ∀ t', .ofSeconds t' < target → s.FiresAt t' → t' ≤ t) ∧
    (s.previousBefore target = none ↔ ∀ t, .ofSeconds t < target → ¬ s.FiresAt t) := by
  have hlimit : Field.yearLimit currentYear ≤ Field.lastYear := Nat.min_le_right _ _
  have hs := wellFormed_of_read (hlimit.trans (by decide)) h
  obtain rfl := zone_of_read (hlimit.trans (by decide)) h
  have hends := longestStepEnds_of_withinReach hs hlimit hspaced hback hreach
  obtain ⟨answer, heq, hlast⟩ := previousBefore_isLast hs hlimit hspaced hback hends
  refine ⟨fun other => ?_, fun t => ?_, ?_⟩
  · rw [previousRun_iff hs hlimit hspaced hback, and_iff_right hends]
  · rw [heq, map_ofSeconds_eq_some, hlast.eq_some_iff fun _ _ hle hge => Int.le_antisymm hge hle]
    simp only [and_imp, and_assoc, ge_iff_le]
  · rw [heq, Option.map_eq_none_iff, hlast.eq_none_iff]
    simp only [not_and]

/-- Before the second midnight of 2010-03-05 at Casey comes the first. -/
theorem previousBefore_midnightAgain :
    ∃ s, read (Field.yearLimit 2025) .antarcticaCasey "0 0 0 * * ?" = .ok s ∧
      Zone.antarcticaCasey.Spaced ∧ Zone.antarcticaCasey.SetsBackAtMost repeatLookahead ∧
      s.WithinReach (.ofSeconds 1267718400) ∧
      s.PreviousRun (.ofSeconds 1267718400) (some (.ofSeconds 1267707600)) ∧
      s.FiresAt 1267707600 ∧
      ∀ t, .ofSeconds t < Instant.ofSeconds 1267718400 → s.FiresAt t → t ≤ 1267707600 := by
  have hspaced : Zone.antarcticaCasey.Spaced := by decide
  have hback : Zone.antarcticaCasey.SetsBackAtMost repeatLookahead := by decide
  obtain ⟨s, hs, hprevious⟩ := exists_of_bind_eq_some
    (by decide +kernel : (read (Field.yearLimit 2025) .antarcticaCasey "0 0 0 * * ?").toOption.bind
      (·.previousBefore (.ofSeconds 1267718400)) = some (.ofSeconds 1267707600))
  have hreach : s.WithinReach (.ofSeconds 1267718400) := .inl (by decide)
  obtain ⟨hrun, hlast, -⟩ := previousBefore_eq_iff hs hspaced hback hreach
  exact ⟨s, hs, hspaced, hback, hreach, (hrun _).2 hprevious.symm,
    ((hlast 1267707600).1 hprevious).2⟩

end Schedule

end CronSchedule
