import CronSchedule.Proofs.Search.Next
import CronSchedule.Zone.Database

/-!
# Searching from within a second

A search goes by whole seconds, and only where it looks ahead for a clock that is set back
does it add to the instant as it is. A fraction of a second makes no difference there, in any
zone (`nextAfter_truncate`). From within a leap second the search looks at a fire time more,
which the search by readings finds as well, and it begins a second late where the clock is
set back to an offset behind UTC. So it `PassesOver` the very next second when the clock is
set back right there, and nothing else (`nextAfter_truncate_iff`,
`not_forall_nextAfter_eq_truncate`).
-/

namespace CronSchedule

namespace Schedule

variable {s : Schedule} {after : Instant} {reading limit : Reading} {offset : Offset}
variable {t : Int} {yearLimit : Nat}

/-! ## Fractions of a second -/

theorem nextShowing_eq (s : Schedule) (after : Instant) (reading : Reading) :
    s.nextShowing after reading = (s.nextReading reading).bind fun candidate =>
      ((s.zone.momentsOf candidate).find? (after.seconds < ·)).or
        (s.nextShowing after candidate) := by
  rw [nextShowing]
  split
  · rename_i hnone
    rw [hnone, Option.bind_none]
  · rename_i candidate hc
    rw [hc, Option.bind_some]
    split
    · rename_i hf
      rw [hf, Option.some_or]
    · rename_i hf
      rw [hf, Option.none_or]

theorem nextAtOffset_eq (s : Schedule) (after : Instant) (offset : Offset)
    (limit reading : Reading) :
    s.nextAtOffset after offset limit reading = (s.nextReading reading).bind fun candidate =>
      let time := candidate.seconds - offset.seconds
      if limit < candidate then none
      else if after.seconds < time ∧ s.zone.offsetAt time = offset then some time
      else s.nextAtOffset after offset limit candidate := by
  rw [nextAtOffset]
  split
  · rename_i hnone
    rw [hnone, Option.bind_none]
  · rename_i candidate hc
    rw [hc, Option.bind_some]

/-- The searches ask an instant only for its second. -/
theorem nextShowing_truncate (s : Schedule) (after : Instant) (reading : Reading) :
    s.nextShowing after.truncate reading = s.nextShowing after reading := by
  fun_induction nextShowing s after reading with
  | case1 reading hnone => rw [nextShowing_eq, hnone, Option.bind_none]
  | case2 reading candidate hc found hf =>
    rw [nextShowing_eq, hc, Option.bind_some, Instant.truncate, Instant.ofSeconds, hf,
      Option.some_or]
  | case3 reading candidate hc hf ih =>
    rw [nextShowing_eq, hc, Option.bind_some, ih, Instant.truncate, Instant.ofSeconds, hf,
      Option.none_or]

theorem nextAtOffset_truncate (s : Schedule) (after : Instant) (offset : Offset)
    (limit reading : Reading) :
    s.nextAtOffset after.truncate offset limit reading =
      s.nextAtOffset after offset limit reading := by
  fun_induction nextAtOffset s after offset limit reading with
  | case1 reading hnone => rw [nextAtOffset_eq, hnone, Option.bind_none]
  | case2 reading candidate hc hpast =>
    rw [nextAtOffset_eq, hc, Option.bind_some]
    exact if_pos hpast
  | case3 reading candidate hc time hpast htime =>
    rw [nextAtOffset_eq, hc, Option.bind_some]
    exact (if_neg hpast).trans (if_pos htime)
  | case4 reading candidate hc time hpast htime ih =>
    rw [nextAtOffset_eq, hc, Option.bind_some, ← ih]
    exact (if_neg hpast).trans (if_neg htime)

/-- **A fraction of a second makes no difference to a search**, in any zone. -/
theorem nextAfter_truncate (s : Schedule) (hleap : ¬ after.InLeapSecond) :
    s.nextAfter after.truncate = s.nextAfter after := by
  have htruncate := Instant.not_leap_truncate after
  have hset : s.setAhead after.truncate = s.setAhead after := by
    have hnanos := Instant.addSeconds_nanos hleap repeatLookahead
    rw [setAhead, setAhead, Instant.addSeconds_truncate hleap]
    exact congrArg (·.2.seconds) (Instant.bisect_truncate
      (fun x => s.zone.offsetAt x == s.zone.offsetAt (after.seconds + repeatLookahead))
      hnanos.symm hleap)
  have hrepeated : s.nextRepeatedReading after.truncate = s.nextRepeatedReading after := by
    simp only [nextRepeatedReading_eq, Instant.carry_of_not_leap hleap,
      Instant.carry_of_not_leap htruncate, hset, nextAtOffset_truncate]
    rfl
  rw [nextAfter, nextAfter, hrepeated, nextLaterReading, nextShowing_truncate]
  rfl

/-! ## Leap seconds -/

/-- **A search from within a leap second passes over the next second**, at which the schedule
fires: the clock is set back then, to an offset behind UTC. -/
structure PassesOver (s : Schedule) (after : Instant) : Prop where
  leap : after.InLeapSecond
  setBack : (s.zone.offsetAt (after.seconds + 1)).seconds < (s.zone.offsetAt after.seconds).seconds
  behind : (s.zone.offsetAt (after.seconds + 1)).seconds < 0
  fires : s.FiresAt (after.seconds + 1)

/-- The offset to which the clock is set back at the next second stays in force. -/
theorem PassesOver.offset_eq (h : s.PassesOver after) (hspaced : s.zone.Spaced) :
    s.zone.offsetAt (after.seconds + 1) = s.zone.offsetAt (after.seconds + repeatLookahead) := by
  refine (Zone.offsetAt_cases hspaced (show after.seconds ≤ after.seconds + 1 by omega)
    (by rw [repeatLookahead]; omega) (by rw [repeatLookahead]; omega)).resolve_left fun hsame => ?_
  have hback := h.setBack
  rw [hsame] at hback
  exact Int.lt_irrefl _ hback

/-- A search from within a leap second looks at all that the search from the beginning of the
second looks at, but for what it passes over. -/
theorem LooksAt.of_truncate (h : s.LooksAt after.truncate t) (hpass : ¬ s.PassesOver after) :
    s.LooksAt after t := by
  obtain ⟨hbegun, hoffset, hfires, hshown⟩ := h
  rw [Instant.carry_of_not_leap (Instant.not_leap_truncate after), Int.add_zero] at hbegun hshown
  change after.seconds < t at hbegun
  change s.zone.offsetAt t = s.zone.offsetAt (after.seconds + repeatLookahead) at hoffset
  change (s.zone.readingAt t).seconds ≤ (s.zone.readingAt after.seconds).seconds at hshown
  refine ⟨?_, hoffset, hfires, Int.le_trans hshown (Int.le_add_of_nonneg_right
    (Instant.carry_nonneg _ _))⟩
  rcases after.carry_cases (s.zone.offsetAt (after.seconds + repeatLookahead)).seconds with
    hcarry | ⟨hcarry, hleap, hbehind⟩
  · omega
  · by_contra hnext
    obtain rfl : t = after.seconds + 1 := by omega
    refine hpass ⟨hleap, ?_, by rwa [hoffset], hfires⟩
    simp only [Zone.readingAt] at hshown
    omega

/-- What it looks at besides has the very next reading. -/
theorem LooksAt.truncate (h : s.LooksAt after t) :
    s.LooksAt after.truncate t ∨ after.seconds < t ∧ s.FiresAt t ∧
      (s.zone.readingAt t).seconds = (s.zone.readingAt after.seconds).seconds + 1 := by
  obtain ⟨hbegun, hoffset, hfires, hshown⟩ := h
  have hlater := after.carry_nonneg (s.zone.offsetAt (after.seconds + repeatLookahead)).seconds
  have hbefore := after.carry_cases (s.zone.offsetAt after.seconds).seconds
  have hlt : after.seconds < t := by omega
  have htruncate := Instant.carry_of_not_leap (Instant.not_leap_truncate after)
  rcases Int.lt_or_le (s.zone.readingAt after.seconds).seconds (s.zone.readingAt t).seconds with
    hnext | hle
  · exact .inr ⟨hlt, hfires, by omega⟩
  · refine .inl ⟨?_, hoffset, hfires, ?_⟩
    · rwa [htruncate, Int.add_zero]
    · rwa [htruncate, Int.add_zero]

section

variable (hs : s.WellFormed yearLimit) (hlimit : yearLimit ≤ Field.lastYear)
include hs hlimit

/-- The search by readings finds nothing later than a moment with the very next reading. -/
theorem exists_nextLaterReading_le (hordered : s.zone.Ordered) (hlt : after.seconds < t)
    (hfires : s.FiresAt t)
    (hnext : (s.zone.readingAt t).seconds = (s.zone.readingAt after.seconds).seconds + 1) :
    ∃ u, s.nextLaterReading after = some u ∧ u ≤ t := by
  have hlater : s.zone.readingAt after.seconds < s.zone.readingAt t := by
    rw [Reading.lt_def]
    omega
  have hspec := nextShowing_spec hs hlimit hordered after (s.zone.readingAt after.seconds)
  rw [nextLaterReading]
  revert hspec
  cases s.nextShowing after (s.zone.readingAt after.seconds) with
  | none => exact fun hnone => absurd hlater (hnone t hlt hfires)
  | some u =>
    rintro ⟨⟨-, -, hu⟩, hleast⟩
    refine ⟨u, rfl, ?_⟩
    rcases hleast t hlt hfires hlater with hless | ⟨-, hle⟩
    · rw [Reading.lt_def] at hu hless
      omega
    · exact hle

/-- **The next fire time is the first one that either search finds or looks at.** -/
theorem nextAfter_isFirst_looksAt (hspaced : s.zone.Spaced)
    (hnanos : after.nanos < 2 * Instant.nanosPerSecond) :
    ∃ answer, s.nextAfter after = answer.map .ofSeconds ∧
      IsFirst (· ≤ ·) (fun t => s.nextLaterReading after = some t ∨ s.LooksAt after t) answer :=
  ⟨_, rfl, isFirst_either (.self Int.le_refl _)
    (nextRepeatedReading_isFirst_looksAt hs hlimit hspaced hnanos)⟩

/-- From the beginning of the second, the next second is found. -/
theorem PassesOver.nextAfter_truncate (h : s.PassesOver after) (hspaced : s.zone.Spaced) :
    s.nextAfter after.truncate = some (.ofSeconds (after.seconds + 1)) := by
  obtain ⟨answer, heq, hfirst⟩ := nextAfter_isFirst_looksAt hs hlimit hspaced
    (Instant.nanos_truncate_lt after)
  have hcarry := Instant.carry_of_not_leap (Instant.not_leap_truncate after)
  have hback := h.setBack
  rw [heq, map_ofSeconds_eq_some, hfirst.eq_some_iff fun _ _ => Int.le_antisymm]
  refine ⟨.inr ⟨?_, h.offset_eq hspaced, h.fires, ?_⟩, ?_⟩
  · rw [hcarry, Int.add_zero]
    exact Int.lt_succ _
  · rw [hcarry, Int.add_zero]
    show after.seconds + 1 + (s.zone.offsetAt (after.seconds + 1)).seconds ≤
      after.seconds + (s.zone.offsetAt after.seconds).seconds
    omega
  · rintro t (hlater | hlooks)
    · exact (nextShowing_bounds hlater).1
    · have hbegun := hlooks.begun
      rwa [hcarry, Int.add_zero] at hbegun

/-- From within the leap second, it is not. -/
theorem PassesOver.nextAfter_ne (h : s.PassesOver after) (hspaced : s.zone.Spaced)
    (hnanos : after.nanos < 2 * Instant.nanosPerSecond) :
    s.nextAfter after ≠ some (.ofSeconds (after.seconds + 1)) := by
  obtain ⟨answer, heq, hfirst⟩ := nextAfter_isFirst_looksAt hs hlimit hspaced hnanos
  rw [heq]
  intro hanswer
  rw [map_ofSeconds_eq_some] at hanswer
  subst hanswer
  rcases hfirst.1 with hlater | hlooks
  · -- The clock shows no later reading there.
    have hspec := nextShowing_spec hs hlimit hspaced.ordered after (s.zone.readingAt after.seconds)
    rw [show s.nextShowing after _ = _ from hlater] at hspec
    have hreading := hspec.1.2.2
    have hback := h.setBack
    simp only [Reading.lt_def, Zone.readingAt] at hreading
    omega
  · -- And the search for repeated ones begins a second late.
    have hbegun := hlooks.begun
    rw [← h.offset_eq hspaced, Instant.carry, if_pos ⟨h.leap, h.behind⟩] at hbegun
    exact Int.lt_irrefl _ hbegun

/-- **A leap second makes a difference exactly where the search passes over the next
second.** -/
theorem nextAfter_truncate_iff (hspaced : s.zone.Spaced)
    (hnanos : after.nanos < 2 * Instant.nanosPerSecond) :
    s.nextAfter after = s.nextAfter after.truncate ↔ ¬ s.PassesOver after := by
  obtain ⟨answer, heq, hfirst⟩ := nextAfter_isFirst_looksAt hs hlimit hspaced hnanos
  obtain ⟨other, heq', hfirst'⟩ := nextAfter_isFirst_looksAt hs hlimit hspaced
    (Instant.nanos_truncate_lt after)
  have hsame : s.nextLaterReading after.truncate = s.nextLaterReading after :=
    nextShowing_truncate s after _
  rw [heq, heq']
  constructor
  · intro hanswer hpass
    rw [← heq, ← heq', hpass.nextAfter_truncate hs hlimit hspaced] at hanswer
    exact hpass.nextAfter_ne hs hlimit hspaced hnanos hanswer
  · intro hpass
    refine congrArg _ (hfirst.eq_of_dominated hfirst' (fun _ _ _ => Int.le_trans)
      (fun _ _ => Int.le_antisymm) ?_ ?_)
    · rintro t (hlater | hlooks)
      · exact ⟨t, .inl (hsame.trans hlater), Int.le_refl t⟩
      · rcases hlooks.truncate with hlooks' | ⟨hlt, hfires, hnext⟩
        · exact ⟨t, .inr hlooks', Int.le_refl t⟩
        · obtain ⟨u, hu, hle⟩ :=
            exists_nextLaterReading_le hs hlimit hspaced.ordered hlt hfires hnext
          exact ⟨u, .inl (hsame.trans hu), hle⟩
    · rintro t (hlater | hlooks)
      · exact ⟨t, .inl (hsame.symm.trans hlater), Int.le_refl t⟩
      · exact ⟨t, .inr (hlooks.of_truncate hpass), Int.le_refl t⟩

end

/-- **What is below the second makes no difference to a search**, but for one case. A fraction
makes none in any zone. A leap second makes one exactly where the search passes over the next
second, which the search from the beginning of the second finds. -/
theorem nextAfter_eq_truncate_iff {currentYear : Int} {zone : Zone} {text : String}
    (h : read (Field.yearLimit currentYear) zone text = .ok s)
    (hnanos : after.nanos < 2 * Instant.nanosPerSecond) :
    (¬ after.InLeapSecond → s.nextAfter after = s.nextAfter after.truncate) ∧
    (zone.Spaced →
      (s.nextAfter after = s.nextAfter after.truncate ↔ ¬ s.PassesOver after) ∧
      (s.PassesOver after →
        s.nextAfter after.truncate = some (.ofSeconds (after.seconds + 1)))) := by
  obtain ⟨hs, hlimit, rfl⟩ := searchable_of_read h
  exact ⟨fun hleap => (nextAfter_truncate s hleap).symm, fun hspaced =>
    ⟨nextAfter_truncate_iff hs hlimit hspaced hnanos,
      fun hpass => hpass.nextAfter_truncate hs hlimit hspaced⟩⟩

/-- At New York the clock went back at two o'clock on 2024-11-03. From within a leap second
before that, a search still finds that half past one comes again. -/
theorem nextAfter_eq_truncate_halfPastOneAgain :
    ∃ s, read (Field.yearLimit 2024) .americaNewYork "0 30 1 * * ?" = .ok s ∧
      1000000000 < 2 * Instant.nanosPerSecond ∧ Zone.americaNewYork.Spaced ∧
      ¬ s.PassesOver ⟨1730613599, 1000000000⟩ ∧
      s.nextAfter ⟨1730613599, 1000000000⟩ =
        s.nextAfter (Instant.truncate ⟨1730613599, 1000000000⟩) := by
  have hspaced : Zone.americaNewYork.Spaced := Zone.spaced_of_isChain (by decide +kernel)
  obtain ⟨s, hs, hfires⟩ := exists_of_bind_eq_some
    (by decide +kernel : (read (Field.yearLimit 2024) .americaNewYork
      "0 30 1 * * ?").toOption.bind (fun s => some (decide (s.FiresAt 1730613600))) = some false)
  have hpass : ¬ s.PassesOver ⟨1730613599, 1000000000⟩ :=
    fun hpass => of_decide_eq_false (Option.some.inj hfires) hpass.fires
  exact ⟨s, hs, by decide, hspaced, hpass,
    ((nextAfter_eq_truncate_iff hs (by decide)).2 hspaced).1.2 hpass⟩

/-- **From within the leap second before the clock goes back, a search loses a second.** Every
second of the clock at New York is a fire time, and so is the first that comes again on
2024-11-03. Started within a leap second before it, the search finds the one after. -/
theorem not_forall_nextAfter_eq_truncate :
    ¬ ∀ (currentYear : Int) (name text : String) (zone : Zone) (s : Schedule)
      (after : Instant), Zone.ofName? name = some zone →
      read (Field.yearLimit currentYear) zone text = .ok s →
      after.nanos < 2 * Instant.nanosPerSecond →
      s.nextAfter after = s.nextAfter after.truncate := by
  intro hall
  obtain ⟨s, hs, hpair⟩ := exists_of_bind_eq_some
    (by decide +kernel : (read (Field.yearLimit 2024) .americaNewYork
      "* * * * * ?").toOption.bind (fun s => some (s.nextAfter ⟨1730613599, 1000000000⟩,
        s.nextAfter (.ofSeconds 1730613599))) =
      some (some (.ofSeconds 1730613601), some (.ofSeconds 1730613600)))
  obtain ⟨hwithin, hbeginning⟩ := Prod.mk.inj (Option.some.inj hpair)
  have hsame := hall 2024 "America/New_York" "* * * * * ?" .americaNewYork s
    ⟨1730613599, 1000000000⟩ (by decide +kernel) hs (by decide)
  rw [hwithin, Instant.truncate, hbeginning] at hsame
  exact absurd hsame (by decide)

end Schedule

end CronSchedule
