import CronSchedule.Proofs.Search.Satisfied
import CronSchedule.Search.Run
import Mathlib.Data.List.Perm.Subperm

/-!
# A run of fire times is followed to its end

`firstMissAfter` leaps over whole minutes, hours and days. A leap goes over fire times
only (`firesAt_of_le_endOfBlock`): of a block, every reading is allowed
(`allows_of_mem_blockEnds`), and the clock is not set within one at whose end it shows
what it would show had it not been set. `FollowsRun` is the loop with no bound on its
rounds; it ends (`followsRun_iff`), over fire times only (`FollowsRun.spec`), and so at the
first second that is not one (`firstMissAfter_eq_iff`).
-/

namespace CronSchedule

namespace Reading

variable {r later : Reading}

theorem dayNumber_eq_of_le (hle : r ≤ later) (hday : later ≤ ofParts r.dayNumber 23 59 59) :
    later.dayNumber = r.dayNumber := by
  simp only [le_def, ofParts, dayNumber] at *
  omega

theorem hour_eq_of_le (hle : r ≤ later) (hhour : later ≤ ofParts r.dayNumber r.hour 59 59) :
    later.hour = r.hour := by
  simp only [le_def, ofParts, dayNumber, hour, secondOfDay] at *
  omega

theorem minute_eq_of_le (hle : r ≤ later)
    (hminute : later ≤ ofParts r.dayNumber r.hour r.minute 59) : later.minute = r.minute := by
  simp only [le_def, ofParts, dayNumber, hour, minute, secondOfDay] at *
  omega

end Reading

namespace Schedule

variable {s : Schedule} {yearLimit : Nat} {span : Int} {t u last r : Int}
variable {reading final : Reading}

/-! ## Blocks -/

/-- As many values as there are between two bounds are all of them. -/
theorem mem_of_length_eq {values : List Nat} {low high x : Nat}
    (hsorted : values.Pairwise (· < ·)) (hbounds : ∀ y ∈ values, low ≤ y ∧ y ≤ high)
    (hlength : values.length = high - low + 1) (hlow : low ≤ x) (hhigh : x ≤ high) :
    x ∈ values := by
  have hsub : values ⊆ List.range' low (high - low + 1) := by
    intro y hy
    have := hbounds y hy
    exact List.mem_range'_1.2 (by omega)
  have hperm : values.Perm (List.range' low (high - low + 1)) :=
    (List.subperm_of_subset (hsorted.imp Nat.ne_of_lt) hsub).perm_of_length_le (by simp [hlength])
  exact hperm.mem_iff.2 (List.mem_range'_1.2 (by omega))

/-- A full field allows every value that it may take. -/
theorem mem_of_isFull (hs : s.WellFormed yearLimit) {field : Field} {x : Nat}
    (hyear : field ≠ .year) (hfull : s.isFull field = true) (hleast : field.least ≤ x)
    (hgreatest : x ≤ field.greatest yearLimit) : x ∈ (s.field field).values := by
  have hsame : field.greatest Field.lastYear = field.greatest yearLimit := by
    cases field <;> first | rfl | exact absurd rfl hyear
  have hsize : (s.field field).values.length = field.greatest yearLimit - field.least + 1 := by
    rw [← hsame]
    exact beq_iff_eq.1 hfull
  exact mem_of_length_eq (s.field field).sorted (hs.bounds field) hsize hleast hgreatest

/-- Which blocks there are around a reading. -/
theorem mem_blockEnds_iff : final ∈ s.blockEnds reading ↔ s.isFull .second = true ∧
    (final = .ofParts reading.dayNumber reading.hour reading.minute 59 ∨
      s.isFull .minute = true ∧ (final = .ofParts reading.dayNumber reading.hour 59 59 ∨
        s.isFull .hour = true ∧ final = .ofParts reading.dayNumber 23 59 59)) := by
  unfold blockEnds
  cases s.isFull .second <;> cases s.isFull .minute <;> cases s.isFull .hour <;>
    simp [or_comm, or_assoc]

/-- **In a block every reading is allowed** that comes after an allowed one. -/
theorem allows_of_mem_blockEnds (hs : s.WellFormed yearLimit) (hallows : s.Allows reading)
    (hfinal : final ∈ s.blockEnds reading) {r : Reading} (hle : reading ≤ r) (hler : r ≤ final) :
    s.Allows r := by
  obtain ⟨hseconds, hblock⟩ := mem_blockEnds_iff.1 hfinal
  -- The blocks lie in one another, and all of them in the day.
  have hinDay : r ≤ .ofParts reading.dayNumber 23 59 59 := by
    have hhour := reading.hour_lt
    have hminute := reading.minute_lt
    rcases hblock with rfl | ⟨-, rfl | ⟨-, rfl⟩⟩ <;>
      simp only [Reading.le_def, Reading.ofParts] at hler ⊢ <;> omega
  have hday := Reading.dayNumber_eq_of_le hle hinDay
  have hdate : r.date = reading.date := by rw [Reading.date, hday, Reading.date]
  refine ⟨⟨?_, ?_, ?_⟩, hdate ▸ hallows.2.1, hdate ▸ hallows.2.2⟩
  · exact mem_of_isFull hs (by decide) hseconds (Nat.zero_le _) (Nat.le_of_lt_succ r.second_lt)
  · rcases hblock with rfl | ⟨hminutes, -⟩
    · exact Reading.minute_eq_of_le hle hler ▸ hallows.1.2.1
    · exact mem_of_isFull hs (by decide) hminutes (Nat.zero_le _) (Nat.le_of_lt_succ r.minute_lt)
  · rcases hblock with rfl | ⟨-, rfl | ⟨hhours, -⟩⟩
    · have hinHour : r ≤ .ofParts reading.dayNumber reading.hour 59 59 := by
        have hminute := reading.minute_lt
        simp only [Reading.le_def, Reading.ofParts] at hler ⊢
        omega
      exact Reading.hour_eq_of_le hle hinHour ▸ hallows.1.2.2
    · exact Reading.hour_eq_of_le hle hler ▸ hallows.1.2.2
    · exact mem_of_isFull hs (by decide) hhours (Nat.zero_le _) (Nat.le_of_lt_succ r.hour_lt)

/-- A block is shorter than a day. -/
theorem sub_lt_of_mem_blockEnds (hfinal : final ∈ s.blockEnds reading) :
    final.seconds - reading.seconds < 86400 := by
  have hhour := reading.hour_lt
  have hminute := reading.minute_lt
  have hsum := reading.seconds_eq
  obtain ⟨-, hblock⟩ := mem_blockEnds_iff.1 hfinal
  rcases hblock with rfl | ⟨-, rfl | ⟨-, rfl⟩⟩ <;> simp only [Reading.ofParts] <;> omega

/-- **A leap goes over fire times only.** The clock shows at the end of the block what
it would show had it not been set, and a day sees one change at most. -/
theorem firesAt_of_le_endOfBlock (hs : s.WellFormed yearLimit) (hspaced : s.zone.Spaced)
    (hfires : s.FiresAt t) (htu : t ≤ u) (hle : u ≤ s.endOfBlock t) : s.FiresAt u := by
  unfold endOfBlock at hle
  simp only at hle
  split at hle
  · rename_i final last hfound
    have hshown : s.zone.readingAt last = final := by simpa using List.find?_some hfound
    obtain ⟨final', hfinal, heq⟩ := List.mem_map.1 (List.mem_of_find?_eq_some hfound)
    obtain ⟨rfl, rfl⟩ := Prod.mk.inj heq
    have hday := sub_lt_of_mem_blockEnds hfinal
    have hoffset : s.zone.offsetAt t =
        s.zone.offsetAt (t + (final'.seconds - (s.zone.readingAt t).seconds)) := by
      rw [Zone.readingAt_eq_iff] at hshown
      ext
      simp only [Zone.readingAt] at hshown ⊢
      omega
    have hsame : s.zone.offsetAt u = s.zone.offsetAt t := by
      rcases Zone.offsetAt_cases hspaced htu hle (by omega) with h | h
      · exact h.symm
      · exact h.trans hoffset.symm
    have hu : (s.zone.readingAt u).seconds = u + (s.zone.offsetAt t).seconds := by
      rw [Zone.readingAt, hsame]
    have ht : (s.zone.readingAt t).seconds = t + (s.zone.offsetAt t).seconds := rfl
    refine allows_of_mem_blockEnds hs hfires hfinal ?_ ?_
    · rw [Reading.le_def, hu, ht]
      omega
    · rw [Reading.le_def, hu]
      omega
  · obtain rfl : u = t := Int.le_antisymm hle htu
    exact hfires

/-! ## The loop -/

/-- **The loop that follows a run of fire times**, with no bound on its rounds, from a
second to the first one after it that is not a fire time. -/
inductive FollowsRun (s : Schedule) : Int → Int → Prop
  /-- The next second is not a fire time. -/
  | stop {last : Int} : s.nextAfter (.ofSeconds last) ≠ some (.ofSeconds (last + 1)) →
      FollowsRun s last (last + 1)
  /-- It is one, and the loop goes on from the end of the block around it. -/
  | follow {last r : Int} : s.nextAfter (.ofSeconds last) = some (.ofSeconds (last + 1)) →
      FollowsRun s (s.endOfBlock (last + 1)) r → FollowsRun s last r

/-- The loop goes one way only. -/
theorem FollowsRun.unique {other : Int} (h : FollowsRun s last r)
    (h' : FollowsRun s last other) : other = r := by
  induction h with
  | stop hmiss =>
    cases h' with
    | stop => rfl
    | follow hnext => exact absurd hnext hmiss
  | follow hnext _ ih =>
    cases h' with
    | stop hmiss => exact absurd hnext hmiss
    | follow _ hrest => exact ih hrest

/-- **The loop ends**: every round leads to a later second, and there are no fire times
after the years that are searched. -/
theorem followsRun_runEnd (s : Schedule) (last : Int) : FollowsRun s last (s.runEnd last) := by
  fun_induction runEnd s last with
  | case1 last next hnext hsecond ih =>
    have hwhole : next = .ofSeconds (last + 1) := Instant.ext hsecond (nextAfter_bounds hnext).2.2
    rw [hsecond] at ih ⊢
    exact .follow (hwhole ▸ hnext) ih
  | case2 last next hnext hsecond =>
    refine .stop fun h => hsecond ?_
    rw [Option.some.inj (hnext.symm.trans h)]
    rfl
  | case3 last hnone => exact .stop (by rw [hnone]; exact nofun)

theorem followsRun_iff : FollowsRun s last r ↔ r = s.runEnd last :=
  ⟨(followsRun_runEnd s last).unique, fun h => h ▸ followsRun_runEnd s last⟩

/-- The test of the loop is whether the next second is satisfied. -/
theorem isSatisfiedBy_next_iff : s.isSatisfiedBy (.ofSeconds (last + 1)) = true ↔
    s.nextAfter (.ofSeconds last) = some (.ofSeconds (last + 1)) := by
  unfold isSatisfiedBy
  rw [beq_iff_eq]
  show s.nextAfter (.ofSeconds (last + 1 - 1)) = _ ↔ _
  rw [Int.add_sub_cancel]
  rfl

/-- **What the loop comes to**: a second that is not satisfied, and all seconds on the
way to it are fire times. -/
theorem FollowsRun.spec (hs : s.WellFormed yearLimit) (hlimit : yearLimit ≤ Field.lastYear)
    (hspaced : s.zone.Spaced) (hback : s.zone.SetsBackAtMost span) (hspan : span < 86400)
    (h : FollowsRun s last r) :
    last < r ∧ s.isSatisfiedBy (.ofSeconds r) = false ∧
      ∀ u, last < u → u < r → s.FiresAt u := by
  -- The induction is on the rounds of the loop; each adds the seconds of one block.
  induction h with
  | stop hmiss =>
    refine ⟨Int.lt_succ _, ?_, fun u hu hlt => ?_⟩
    · exact Bool.eq_false_iff.2 (mt isSatisfiedBy_next_iff.1 hmiss)
    · omega
  | @follow last r hnext _ ih =>
    obtain ⟨hlt, hmiss, hrun⟩ := ih
    have hblock := le_endOfBlock s (last + 1)
    have hfires : s.FiresAt (last + 1) :=
      (isSatisfiedBy_iff_firesAt hs hlimit hspaced hback hspan _).1 (isSatisfiedBy_next_iff.2 hnext)
    refine ⟨by omega, hmiss, fun u hu hur => ?_⟩
    by_cases hle : u ≤ s.endOfBlock (last + 1)
    · exact firesAt_of_le_endOfBlock hs hspaced hfires hu hle
    · exact hrun u (by omega) hur

/-- **The loop ends for every instant, and the answer is the first second after it that
is not satisfied**: all seconds on the way there are fire times, also those that a block
leaps over, and those after the clock was set. -/
theorem firstMissAfter_eq_iff {currentYear : Int} {zone : Zone} {text : String}
    (h : read (Field.yearLimit currentYear) zone text = .ok s) (hspaced : zone.Spaced)
    (hback : zone.SetsBackAtMost (86400 - 1)) (after : Instant) :
    (∀ r, s.FollowsRun after.truncate.seconds r ↔ .ofSeconds r = s.firstMissAfter after) ∧
    ∀ r, s.firstMissAfter after = .ofSeconds r ↔
      after.truncate < .ofSeconds r ∧ s.isSatisfiedBy (.ofSeconds r) = false ∧
        ∀ u, after.truncate < .ofSeconds u → u < r →
          s.isSatisfiedBy (.ofSeconds u) = true ∧ s.FiresAt u := by
  obtain ⟨hs, hlimit, rfl⟩ := searchable_of_read h
  have hinj : ∀ a b : Int, Instant.ofSeconds a = .ofSeconds b ↔ a = b := fun a b =>
    ⟨congrArg Instant.seconds, congrArg Instant.ofSeconds⟩
  have hfires := isSatisfiedBy_iff_firesAt hs hlimit hspaced hback (by decide)
  unfold firstMissAfter
  obtain ⟨hlater, hmiss, hrun⟩ := (followsRun_runEnd s after.seconds).spec hs hlimit hspaced hback
    (by decide)
  refine ⟨fun r => followsRun_iff.trans (hinj _ _).symm, fun r => (hinj _ _).trans ?_⟩
  simp only [lt_ofSeconds_iff, Instant.truncate]
  constructor
  · rintro rfl
    refine ⟨hlater, hmiss, fun u hu hur => ?_⟩
    have hu := hrun u hu hur
    exact ⟨(hfires _).2 hu, hu⟩
  · rintro ⟨hr, hrmiss, hbefore⟩
    -- Of two such seconds the later one would have passed over the earlier.
    rcases Int.lt_trichotomy (s.runEnd after.seconds) r with hlt | heq | hgt
    · exact absurd (hbefore _ hlater hlt).1 (Bool.eq_false_iff.1 hmiss)
    · exact heq
    · exact absurd ((hfires _).2 (hrun r hr hgt)) (Bool.eq_false_iff.1 hrmiss)

/-- At Casey the clock went back on 2010-03-05 from two in the morning to eleven in the
evening, so the run that begins then lasts six hours and not three. -/
theorem firstMissAfter_nightAgain :
    ∃ s, read (Field.yearLimit 2025) .antarcticaCasey "* * 23-1 * * ?" = .ok s ∧
      Zone.antarcticaCasey.Spaced ∧ Zone.antarcticaCasey.SetsBackAtMost (86400 - 1) ∧
      s.FollowsRun 1267703999 1267725600 ∧
      s.isSatisfiedBy (.ofSeconds 1267725600) = false ∧
      ∀ u, Instant.truncate ⟨1267703999, 500000000⟩ < .ofSeconds u → u < 1267725600 →
        s.isSatisfiedBy (.ofSeconds u) = true ∧ s.FiresAt u := by
  have hspaced : Zone.antarcticaCasey.Spaced := by decide
  have hback : Zone.antarcticaCasey.SetsBackAtMost (86400 - 1) := by decide
  obtain ⟨s, hs, hmiss⟩ := exists_of_bind_eq_some
    (by decide +kernel : (read (Field.yearLimit 2025) .antarcticaCasey
      "* * 23-1 * * ?").toOption.bind (fun s => some (s.firstMissAfter ⟨1267703999, 500000000⟩)) =
        some (.ofSeconds 1267725600))
  have hmiss := Option.some.inj hmiss
  obtain ⟨hloop, hfirst⟩ := firstMissAfter_eq_iff hs hspaced hback ⟨1267703999, 500000000⟩
  exact ⟨s, hs, hspaced, hback, (hloop _).2 hmiss.symm, ((hfirst _).1 hmiss).2⟩

end Schedule

end CronSchedule
