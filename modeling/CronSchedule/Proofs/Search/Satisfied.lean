import CronSchedule.Proofs.Search.Next

/-!
# A second is satisfied when its reading is allowed

`isSatisfiedBy` never looks at the fields: it searches on from the second before and
compares. That second being the next one, only what the clock shows right there has a
say. Where it shows more than before, the search by readings finds it
(`nextLaterReading_next_iff`), and where it was set back, the search for readings that
come again does (`nextRepeatedReading_next_iff`), by however much less than a day. So a
second is satisfied exactly when the schedule allows its reading
(`isSatisfiedBy_iff_allows`).
-/

namespace CronSchedule

namespace Schedule

variable {s : Schedule} {t : Int} {span : Int} {yearLimit : Nat}

/-- **The next second is found when either search finds it**: neither finds an earlier
one. -/
theorem nextAfter_next_iff :
    s.nextAfter (.ofSeconds (t - 1)) = some (.ofSeconds t) ↔
      s.nextLaterReading (.ofSeconds (t - 1)) = some t ∨
        s.nextRepeatedReading (.ofSeconds (t - 1)) = some t := by
  have hle : ∀ u, s.nextLaterReading (.ofSeconds (t - 1)) = some u ∨
      s.nextRepeatedReading (.ofSeconds (t - 1)) = some u → t ≤ u := by
    rintro u (hu | hu)
    · exact Int.le_of_sub_one_lt (nextShowing_bounds hu).1
    · exact Int.le_of_sub_one_lt (nextRepeatedReading_bounds hu).1
  obtain ⟨answer, heq, hfirst⟩ := nextAfter_isFirst_found s (.ofSeconds (t - 1))
  rw [heq, map_ofSeconds_eq_some]
  exact (hfirst.eq_some_iff (fun _ _ => Int.le_antisymm) t).trans (and_iff_left hle)

section

variable (hs : s.WellFormed yearLimit) (hlimit : yearLimit ≤ Field.lastYear)
include hs hlimit

/-- **Where the clock shows more than before, the search by readings finds the next
second.** A reading between was skipped there, and the clock does not fall back to it. -/
theorem nextLaterReading_next_iff (hspaced : s.zone.Spaced) (hback : s.zone.SetsBackAtMost span)
    (hspan : span < 86400) :
    s.nextLaterReading (.ofSeconds (t - 1)) = some t ↔
      s.FiresAt t ∧ s.zone.readingAt (t - 1) < s.zone.readingAt t := by
  have hnext : t - 1 < t := by omega
  have hspec := nextShowing_spec hs hlimit hspaced.ordered (.ofSeconds (t - 1))
    (s.zone.readingAt (t - 1))
  show s.nextShowing (.ofSeconds (t - 1)) (s.zone.readingAt (t - 1)) = some t ↔ _
  revert hspec
  cases s.nextShowing (.ofSeconds (t - 1)) (s.zone.readingAt (t - 1)) with
  | none =>
    intro hnone
    exact iff_of_false nofun fun h => hnone t hnext h.1 h.2
  | some u =>
    rintro ⟨⟨hafter, hfires, hlater⟩, hleast⟩
    constructor
    · rintro ⟨⟩
      exact ⟨hfires, hlater⟩
    · rintro ⟨htfires, htlater⟩
      have hle : t ≤ u := Int.le_of_sub_one_lt hafter
      rcases hleast t hnext htfires htlater with hless | ⟨-, hge⟩
      · -- Then a change at `t` skipped the reading of `u`, which is shown later.
        have hne : t ≠ u := by
          rintro rfl
          exact Int.lt_irrefl _ hless
        have hchanged : s.zone.offsetAt (t - 1) ≠ s.zone.offsetAt t := by
          intro hsame
          simp only [Reading.lt_def, Zone.readingAt, hsame] at hless hlater
          omega
        have := Zone.readingAt_lt_of_changed hspaced hback hspan hchanged (u := u) (by omega)
        exact absurd hless (Int.not_lt.2 (Int.le_of_lt this))
      · exact congrArg some (Int.le_antisymm hge hle)

/-- **Where the clock was set back, the search for readings that come again finds the
next second**, at the offset that the change brings. -/
theorem nextRepeatedReading_next_iff (hspaced : s.zone.Spaced) :
    s.nextRepeatedReading (.ofSeconds (t - 1)) = some t ↔
      s.FiresAt t ∧ s.zone.readingAt t ≤ s.zone.readingAt (t - 1) := by
  have hfirst := nextRepeatedReading_isFirst_ahead hs hlimit hspaced (not_leap_ofSeconds (t - 1))
  simp only [Instant.ofSeconds] at hfirst
  constructor
  · intro h
    rw [show s.nextRepeatedReading ⟨t - 1, 0⟩ = some t from h] at hfirst
    exact hfirst.1.2.2
  · rintro ⟨hfires, hle⟩
    have hlt : t - 1 < t := by omega
    have hsame := (Zone.offsetAt_of_readingAt_le hspaced hlt hle).2 (t - 1 + repeatLookahead)
      (by rw [repeatLookahead]; omega) (by rw [repeatLookahead]; omega)
    refine (hfirst.eq_some_iff (fun _ _ => Int.le_antisymm) t).2 ⟨⟨hlt, hsame, hfires, hle⟩, ?_⟩
    rintro u ⟨hu, -⟩
    exact Int.le_of_sub_one_lt hu

/-- **A second is satisfied exactly when the schedule fires at it.** -/
theorem isSatisfiedBy_iff_firesAt (hspaced : s.zone.Spaced) (hback : s.zone.SetsBackAtMost span)
    (hspan : span < 86400) (t : Instant) : s.isSatisfiedBy t = true ↔ s.FiresAt t.seconds := by
  unfold isSatisfiedBy
  rw [beq_iff_eq]
  show s.nextAfter (.ofSeconds (t.seconds - 1)) = some (.ofSeconds t.seconds) ↔ _
  rw [nextAfter_next_iff, nextLaterReading_next_iff hs hlimit hspaced hback hspan,
    nextRepeatedReading_next_iff hs hlimit hspaced, ← and_or_left]
  exact and_iff_left (Int.lt_or_le _ _)

end

/-- **A schedule is satisfied by an instant exactly when it allows what the clock shows
at its second**, also when the clock shows it a second time, and by however much less
than a day the clock was set back. -/
theorem isSatisfiedBy_iff_allows {currentYear : Int} {zone : Zone} {text : String}
    (h : read (Field.yearLimit currentYear) zone text = .ok s) (hspaced : zone.Spaced)
    (hback : zone.SetsBackAtMost (86400 - 1)) (t : Instant) :
    s.isSatisfiedBy t = true ↔ s.Allows (zone.readingAt t.truncate.seconds) := by
  obtain ⟨hs, hlimit, rfl⟩ := searchable_of_read h
  exact isSatisfiedBy_iff_firesAt hs hlimit hspaced hback (by decide) t

/-- At Vostok the clock went back by seven hours at the end of 1994-01-31, so that six in
the evening came twice. -/
theorem allows_eveningAgain :
    ∃ s, read (Field.yearLimit 2025) .antarcticaVostok "0 0 18 * * ?" = .ok s ∧
      Zone.antarcticaVostok.Spaced ∧ Zone.antarcticaVostok.SetsBackAtMost (86400 - 1) ∧
      s.Allows (Zone.antarcticaVostok.readingAt
        (Instant.truncate ⟨760014000, 0⟩).seconds) ∧
      s.Allows (Zone.antarcticaVostok.readingAt
        (Instant.truncate ⟨760039200, 250000000⟩).seconds) := by
  have hspaced : Zone.antarcticaVostok.Spaced := by decide
  have hback : Zone.antarcticaVostok.SetsBackAtMost (86400 - 1) := by decide
  obtain ⟨s, hs, hsatisfied⟩ := exists_of_bind_eq_some
    (by decide +kernel : (read (Field.yearLimit 2025) .antarcticaVostok
      "0 0 18 * * ?").toOption.bind (fun s => some (s.isSatisfiedBy ⟨760014000, 0⟩,
        s.isSatisfiedBy ⟨760039200, 250000000⟩)) = some (true, true))
  obtain ⟨hfirst, hagain⟩ := Prod.mk.inj (Option.some.inj hsatisfied)
  exact ⟨s, hs, hspaced, hback, (isSatisfiedBy_iff_allows hs hspaced hback _).1 hfirst,
    (isSatisfiedBy_iff_allows hs hspaced hback _).1 hagain⟩

end Schedule

end CronSchedule
