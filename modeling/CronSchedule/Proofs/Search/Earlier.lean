import CronSchedule.Proofs.Search.Next
import CronSchedule.Zone.Database

/-!
# Starting a search earlier

A search that starts earlier ought to find nothing later. What it finds is the first
fire time that it `Sees`: a reading that comes again is only looked for at the offset
that is in force after `repeatLookahead` (`nextAfter_isFirst_seen`). In a zone whose
clock is never set back by more than that, every fire time is seen, and an earlier start
loses none (`exists_nextAfter_le_of_le`). At Vostok the clock once repeated seven hours:
there a search that starts well before the change passes over what it does not see
(`exists_nextAfter_le_iff`, `not_forall_exists_nextAfter_le`).
-/

namespace CronSchedule

namespace Schedule

variable {s : Schedule} {after : Instant} {span : Int} {yearLimit : Nat}

theorem ofSeconds_le_iff {t u : Int} : Instant.ofSeconds t ≤ .ofSeconds u ↔ t ≤ u := by
  simp only [Instant.le_def, Instant.ofSeconds]
  omega

section

variable (hs : s.WellFormed yearLimit) (hlimit : yearLimit ≤ Field.lastYear)
include hs hlimit

/-- **There is a next fire time up to a second exactly when one up to it is seen.** -/
theorem exists_nextAfter_le (hspaced : s.zone.Spaced) (hback : s.zone.SetsBackAtMost span)
    (hspan : 0 ≤ span) (hhalf : 2 * span < 86400) (hleap : ¬ after.InLeapSecond) (bound : Int) :
    (∃ first, s.nextAfter after = some first ∧ first ≤ .ofSeconds bound) ↔
      ∃ t, after < .ofSeconds t ∧ Instant.ofSeconds t ≤ .ofSeconds bound ∧ s.FiresAt t ∧
        s.Sees after.seconds t := by
  obtain ⟨answer, heq, hfirst⟩ :=
    nextAfter_isFirst_seen hs hlimit hspaced hback hspan hhalf hleap
  have hexists := hfirst.exists_rel_iff (fun _ _ _ => Int.le_trans) bound
  simp only [heq, Option.map_eq_some_iff, lt_ofSeconds_iff, ofSeconds_le_iff]
  constructor
  · rintro ⟨_, ⟨t, ht, rfl⟩, hle⟩
    obtain ⟨u, ⟨hlt, hfires, hsees⟩, hub⟩ := hexists.1 ⟨t, ht, ofSeconds_le_iff.1 hle⟩
    exact ⟨u, hlt, hub, hfires, hsees⟩
  · rintro ⟨t, hlt, hle, hfires, hsees⟩
    obtain ⟨u, hu, hub⟩ := hexists.2 ⟨t, ⟨hlt, hfires, hsees⟩, hle⟩
    exact ⟨_, ⟨u, hu, rfl⟩, ofSeconds_le_iff.2 hub⟩

/-- **An earlier start loses nothing where every fire time is seen.** -/
theorem exists_nextAfter_le_of_le {a b next : Instant} (hspaced : s.zone.Spaced)
    (hback : s.zone.SetsBackAtMost repeatLookahead) (ha : ¬ a.InLeapSecond)
    (hb : ¬ b.InLeapSecond) (hle : a ≤ b) (hnext : s.nextAfter b = some next) :
    ∃ first, s.nextAfter a = some first ∧ first ≤ next := by
  obtain ⟨answer, heq, hfirst⟩ :=
    nextAfter_isFirst_seen hs hlimit hspaced hback (by decide) (by decide) hb
  rw [heq, Option.map_eq_some_iff] at hnext
  obtain ⟨u, rfl, rfl⟩ := hnext
  obtain ⟨hlt, hfires, -⟩ := hfirst.1
  have hau : a.seconds < u := by
    rw [Instant.le_def] at hle
    omega
  -- What the later start finds is seen from the earlier one as well.
  exact (exists_nextAfter_le hs hlimit hspaced hback (by decide) (by decide) ha u).2
    ⟨u, lt_ofSeconds_iff.2 hau, ofSeconds_le_iff.2 (Int.le_refl u), hfires,
      .of_setsBackAtMost hspaced hback hau⟩

end

/-- **A later start finds a time: an earlier one finds one up to it exactly when it sees a
fire time up to it.** Where the clock is never set back by more than `repeatLookahead`, it
always does. -/
theorem exists_nextAfter_le_iff {currentYear : Int} {zone : Zone} {text : String}
    {a b next : Instant} (h : read (Field.yearLimit currentYear) zone text = .ok s)
    (hspaced : zone.Spaced) (hback : zone.SetsBackAtMost (86400 / 2 - 1))
    (ha : ¬ a.InLeapSecond) (hb : ¬ b.InLeapSecond) (hle : a ≤ b)
    (hnext : s.nextAfter b = some next) :
    ((∃ first, s.nextAfter a = some first ∧ first ≤ next) ↔
      ∃ t, a < .ofSeconds t ∧ .ofSeconds t ≤ next ∧ s.FiresAt t ∧ s.Sees a.seconds t) ∧
    (zone.SetsBackAtMost repeatLookahead →
      ∃ first, s.nextAfter a = some first ∧ first ≤ next) := by
  obtain ⟨hs, hlimit, rfl⟩ := searchable_of_read h
  refine ⟨?_, fun hlook => exists_nextAfter_le_of_le hs hlimit hspaced hlook ha hb hle hnext⟩
  obtain ⟨u, -, rfl⟩ := Option.map_eq_some_iff.1 hnext
  exact exists_nextAfter_le hs hlimit hspaced hback (by decide) (by decide) ha u

/-- At Casey midnight comes again on 2010-03-05. Started an hour before the clock goes back,
the search does not find a later one than when it is started in the three hours that come
again. -/
theorem exists_nextAfter_le_midnightAgain :
    ∃ s, read (Field.yearLimit 2025) .antarcticaCasey "0 0 0 * * ?" = .ok s ∧
      Zone.antarcticaCasey.Spaced ∧ Zone.antarcticaCasey.SetsBackAtMost (86400 / 2 - 1) ∧
      ¬ Instant.InLeapSecond ⟨1267711200, 500000000⟩ ∧ ¬ Instant.InLeapSecond ⟨1267715000, 0⟩ ∧
      (⟨1267711200, 500000000⟩ : Instant) ≤ ⟨1267715000, 0⟩ ∧
      s.nextAfter ⟨1267715000, 0⟩ = some (.ofSeconds 1267718400) ∧
      Zone.antarcticaCasey.SetsBackAtMost repeatLookahead ∧
      ∃ first, s.nextAfter ⟨1267711200, 500000000⟩ = some first ∧
        first ≤ .ofSeconds 1267718400 := by
  have hspaced : Zone.antarcticaCasey.Spaced := by decide
  have hback : Zone.antarcticaCasey.SetsBackAtMost (86400 / 2 - 1) := by decide
  have hlook : Zone.antarcticaCasey.SetsBackAtMost repeatLookahead := by decide
  have ha : ¬ Instant.InLeapSecond ⟨1267711200, 500000000⟩ := by decide
  have hb : ¬ Instant.InLeapSecond ⟨1267715000, 0⟩ := by decide
  have hle : (⟨1267711200, 500000000⟩ : Instant) ≤ ⟨1267715000, 0⟩ := by decide
  obtain ⟨s, hs, hnext⟩ := exists_of_bind_eq_some
    (by decide +kernel : (read (Field.yearLimit 2025) .antarcticaCasey "0 0 0 * * ?").toOption.bind
      (·.nextAfter ⟨1267715000, 0⟩) = some (.ofSeconds 1267718400))
  exact ⟨s, hs, hspaced, hback, ha, hb, hle, hnext, hlook,
    (exists_nextAfter_le_iff hs hspaced hback ha hb hle hnext).2 hlook⟩

/-- **At Vostok an earlier start does lose one.** Seven in the evening comes again there
at the end of 1994-01-31, two hours after the clock went back by seven. Started at eight
in the evening, four hours before it does, the search does not look that far and finds
the next day's. -/
theorem not_forall_exists_nextAfter_le :
    ¬ ∀ (currentYear : Int) (name text : String) (zone : Zone) (s : Schedule)
      (a b next : Instant), Zone.ofName? name = some zone →
      read (Field.yearLimit currentYear) zone text = .ok s → ¬ a.InLeapSecond →
      ¬ b.InLeapSecond → a ≤ b → s.nextAfter b = some next →
      ∃ first, s.nextAfter a = some first ∧ first ≤ next := by
  intro hall
  obtain ⟨s, hs, hpair⟩ := exists_of_bind_eq_some
    (by decide +kernel : (read (Field.yearLimit 2025) .antarcticaVostok
      "0 0 19 * * ?").toOption.bind (fun s => some (s.nextAfter (.ofSeconds 760021200),
        s.nextAfter (.ofSeconds 760035600))) =
      some (some (.ofSeconds 760129200), some (.ofSeconds 760042800)))
  obtain ⟨hearlier, hlater⟩ := Prod.mk.inj (Option.some.inj hpair)
  obtain ⟨first, hfirst, hle⟩ := hall 2025 "Antarctica/Vostok" "0 0 19 * * ?" .antarcticaVostok s
    (.ofSeconds 760021200) (.ofSeconds 760035600) (.ofSeconds 760042800) (by decide +kernel) hs
    (by decide) (by decide) (by decide) hlater
  rw [hearlier] at hfirst
  obtain rfl := Option.some.inj hfirst
  exact absurd hle (by decide)

end Schedule

end CronSchedule
