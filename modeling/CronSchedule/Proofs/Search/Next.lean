import CronSchedule.Proofs.Search.Bisect
import CronSchedule.Proofs.Search.Reading
import CronSchedule.Proofs.Zone.Regular
import CronSchedule.Search.Next
import CronSchedule.Zone.Database

/-!
# The next fire time is the first moment that shows an allowed reading

A schedule fires at the moments at which the clock of its zone shows an allowed
reading (`FiresAt`). After an instant these have a later reading than it, and
`nextLaterReading` finds the first of them, or a reading that comes again, and
`nextRepeatedReading` finds the first of those. That the searches go by readings
and not by moments makes no difference in a zone with regular changes: what a
clock shows after it was set back, it has shown before. What the two searches
find together is the first fire time that they `Sees`, which is every one unless
the clock is set back by more than `repeatLookahead`.
-/

namespace CronSchedule

namespace Schedule

variable {s : Schedule} {after : Instant} {reading limit : Reading} {t : Int} {yearLimit : Nat}

/-- **The schedule fires at a second**: the clock of its zone shows a reading that
it allows. A reading that the clock skips is shown at no moment, and one that it
repeats at two. -/
def FiresAt (s : Schedule) (t : Int) : Prop :=
  s.Allows (s.zone.readingAt t)

instance (s : Schedule) (t : Int) : Decidable (s.FiresAt t) :=
  inferInstanceAs (Decidable (s.Allows _))

/-! ## Later readings -/

section

variable (hs : s.WellFormed yearLimit) (hlimit : yearLimit ≤ Field.lastYear)
include hs hlimit

/-- **The search by readings** finds, of the moments after an instant with an
allowed reading later than `reading`, one with the earliest reading, and of those
the first. -/
theorem nextShowing_spec (hordered : s.zone.Ordered) (after : Instant) (reading : Reading) :
    match s.nextShowing after reading with
    | some t => (after.seconds < t ∧ s.FiresAt t ∧ reading < s.zone.readingAt t) ∧
        ∀ t', after.seconds < t' → s.FiresAt t' → reading < s.zone.readingAt t' →
          s.zone.readingAt t < s.zone.readingAt t' ∨
            s.zone.readingAt t = s.zone.readingAt t' ∧ t ≤ t'
    | none => ∀ t', after.seconds < t' → s.FiresAt t' → ¬ reading < s.zone.readingAt t' := by
  fun_induction nextShowing s after reading with
  | case1 reading hnone =>
    exact fun t' _ hfires hlater => nextReading_eq_none hs hlimit hnone _ hlater hfires
  | case2 reading candidate hc found hf =>
    obtain ⟨hlt, hallows, hfirst⟩ := nextReading_eq_some hs hlimit hc
    have hshown := (Zone.mem_momentsOf hordered).1 (List.mem_of_find?_eq_some hf)
    refine ⟨⟨by simpa using List.find?_some hf, ?_, ?_⟩, fun t' hafter hfires hlater => ?_⟩
    · rw [FiresAt, hshown]
      exact hallows
    · rw [hshown]
      exact hlt
    · rw [hshown]
      rcases Int.lt_or_eq_of_le (hfirst _ hlater hfires) with h | h
      · exact .inl h
      · have hsame : candidate = s.zone.readingAt t' := Reading.ext h
        have hmem := (Zone.mem_momentsOf hordered).2 hsame.symm
        have := first_of_find? (Zone.pairwise_momentsOf hordered) hf hmem (by simpa using hafter)
        exact .inr ⟨hsame, by omega⟩
  | case3 reading candidate hc hf ih =>
    obtain ⟨hlt, -, hfirst⟩ := nextReading_eq_some hs hlimit hc
    -- The candidate is shown at no moment after the instant, so nothing is lost.
    have hskip : ∀ t', after.seconds < t' → s.FiresAt t' → reading < s.zone.readingAt t' →
        candidate < s.zone.readingAt t' := by
      intro t' hafter hfires hlater
      rcases Int.lt_or_eq_of_le (hfirst _ hlater hfires) with h | h
      · exact h
      · have hmem := (Zone.mem_momentsOf hordered).2 (Reading.ext h).symm
        have := List.find?_eq_none.1 hf t' hmem
        simp [hafter] at this
    revert ih
    cases s.nextShowing after candidate with
    | none =>
      intro ih t' hafter hfires hlater
      exact ih t' hafter hfires (hskip t' hafter hfires hlater)
    | some t =>
      rintro ⟨⟨hafter, hfires, hlater⟩, hleast⟩
      exact ⟨⟨hafter, hfires, Int.lt_trans hlt hlater⟩, fun t' hafter' hfires' hlater' =>
        hleast t' hafter' hfires' (hskip t' hafter' hfires' hlater')⟩

/-- **The first moment with a later reading.** A moment before it would show a
still later reading, and what the clock shows next it would have shown before. -/
theorem nextLaterReading_isFirst {span : Int} (hspaced : s.zone.Spaced)
    (hback : s.zone.SetsBackAtMost span) (hspan : 0 ≤ span) (hhalf : 2 * span < 86400) :
    IsFirst (· ≤ ·) (fun t => after.seconds < t ∧ s.FiresAt t ∧
      s.zone.readingAt after.seconds < s.zone.readingAt t) (s.nextLaterReading after) := by
  have hspec := nextShowing_spec hs hlimit hspaced.ordered after
    (s.zone.readingAt after.seconds)
  rw [nextLaterReading]
  revert hspec
  cases s.nextShowing after (s.zone.readingAt after.seconds) with
  | none => exact fun hnone t h => hnone t h.1 h.2.1 h.2.2
  | some t =>
    rintro ⟨h, hleast⟩
    refine ⟨h, fun t' h' => Int.not_lt.1 fun hlt => ?_⟩
    rcases hleast t' h'.1 h'.2.1 h'.2.2 with hreading | ⟨-, hle⟩
    · -- The clock shows less at `t` than at `t'`, and has shown it before: at `v`.
      obtain ⟨v, hvt, hshown, hsame⟩ :=
        Zone.exists_earlier_moment hspaced hback hspan hhalf hlt hreading
      by_cases hv : after.seconds < v
      · have hvfires : s.FiresAt v := by
          rw [FiresAt, hshown]
          exact h.2.1
        have hvlater : s.zone.readingAt after.seconds < s.zone.readingAt v := hshown ▸ h.2.2
        rcases hleast v hv hvfires hvlater with hlt' | ⟨-, hle⟩
        · rw [hshown] at hlt'
          exact absurd hlt' (Int.lt_irrefl _)
        · omega
      · -- From `v` on the clock was not set, so at `after` it showed the reading or a later one.
        have hoffset := hsame v (Int.le_refl v) (Int.le_of_lt hvt)
        have hafter := hsame after.seconds (Int.not_lt.1 hv) (Int.le_of_lt h'.1)
        have hlater : s.zone.readingAt after.seconds < s.zone.readingAt v := hshown ▸ h.2.2
        simp only [Reading.lt_def, Zone.readingAt, hoffset, hafter] at hlater
        omega
    · omega

end

/-! ## Readings that come again -/

/-- **A reading comes again within `repeatLookahead`**, once the clock was set back,
and for the rest of that span the clock is not set again. -/
theorem comesAgain_spec (hspaced : s.zone.Spaced)
    (hback : s.zone.SetsBackAtMost repeatLookahead) (since t : Int) (hlt : since < t)
    (hle : s.zone.readingAt t ≤ s.zone.readingAt since) :
    t ≤ since + repeatLookahead ∧
      (s.zone.offsetAt t).seconds < (s.zone.offsetAt since).seconds ∧
      ∀ x, t ≤ x → x ≤ since + repeatLookahead → s.zone.offsetAt t = s.zone.offsetAt x := by
  have hsub := Zone.sub_le_of_readingAt_le hspaced hback (by decide) (by decide)
    (Int.le_of_lt hlt) hle
  have hoffset := Zone.offsetAt_of_readingAt_le hspaced hlt hle
  refine ⟨by omega, hoffset.1, fun x hx hxa => hoffset.2 x hx ?_⟩
  rw [repeatLookahead] at hxa
  omega

theorem not_leap_ofSeconds (seconds : Int) : ¬ (Instant.ofSeconds seconds).InLeapSecond :=
  Instant.not_leap_truncate ⟨seconds, 0⟩

/-- **A day with two offsets sees one change**, from which on the second of them is in
force. -/
theorem exists_beginsAt {zone : Zone} {low high : Int} (hspaced : zone.Spaced) (hlt : low < high)
    (hday : high ≤ low + 86400) (hne : zone.offsetAt low ≠ zone.offsetAt high) :
    ∃ set, Instant.BeginsAt (fun x => zone.offsetAt x == zone.offsetAt high) set low high := by
  have hbracket : Instant.Bracket (fun t => zone.offsetAt t.seconds == zone.offsetAt high)
      (.ofSeconds low) (.ofSeconds high) :=
    ⟨hlt, rfl, not_leap_ofSeconds low, beq_eq_false_iff_ne.2 hne, beq_self_eq_true _⟩
  obtain ⟨⟨-, -, -, hfails, hholds⟩, hlow, hone, hhigh⟩ := Instant.bisect_spec hbracket
  generalize Instant.bisect (fun t => zone.offsetAt t.seconds == zone.offsetAt high)
    (.ofSeconds low) (.ofSeconds high) = found at *
  rw [beq_eq_false_iff_ne] at hfails
  rw [beq_iff_eq] at hholds
  simp only [Instant.ofSeconds] at hlow hhigh
  refine ⟨found.2.seconds, by omega, hhigh, fun x hx hxh => ?_⟩
  rw [beq_iff_eq]
  constructor
  · intro hoffset
    by_contra hbefore
    rcases Zone.offsetAt_cases hspaced (show x ≤ found.1.seconds by omega)
      (show found.1.seconds ≤ high by omega) (by omega) with h | h
    · exact hfails (h.symm.trans hoffset)
    · exact hfails h
  · intro hafter
    rcases Zone.offsetAt_cases hspaced (show found.2.seconds ≤ x from hafter) hxh (by omega) with
      h | h
    · exact h.symm.trans hholds
    · exact h

/-- The second at which the search for repeated readings takes the clock to be set. -/
def setAhead (s : Schedule) (after : Instant) : Int :=
  (Instant.bisect
    (fun t => s.zone.offsetAt t.seconds == s.zone.offsetAt (after.seconds + repeatLookahead))
    after (after.addSeconds repeatLookahead)).2.seconds

/-- **The search for repeated readings**, told by seconds and what is carried into them. -/
theorem nextRepeatedReading_eq (s : Schedule) (after : Instant) :
    s.nextRepeatedReading after =
      let before := s.zone.offsetAt after.seconds
      let later := s.zone.offsetAt (after.seconds + repeatLookahead)
      if before.seconds ≤ later.seconds then none
      else s.nextAtOffset after later
        ⟨after.seconds + before.seconds + after.carry before.seconds⟩
        ⟨max (after.seconds + later.seconds + after.carry later.seconds)
          (s.setAhead after + later.seconds - 1)⟩ := by
  have hahead : (after.addSeconds repeatLookahead).seconds = after.seconds + repeatLookahead := by
    rw [Instant.addSeconds_seconds_eq, Instant.carry, if_neg fun h => absurd h.2 (by decide),
      Int.add_zero]
  simp only [nextRepeatedReading, setAhead, Instant.addSeconds_seconds_eq after (Offset.seconds _),
    hahead]

/-- **A fire time that the search for repeated readings looks at**: it comes at the offset
that is in force after `repeatLookahead`, with a reading up to that of the instant. From
within a leap second both bounds are carried. -/
structure LooksAt (s : Schedule) (after : Instant) (t : Int) : Prop where
  begun : after.seconds +
    after.carry (s.zone.offsetAt (after.seconds + repeatLookahead)).seconds < t
  offset_eq : s.zone.offsetAt t = s.zone.offsetAt (after.seconds + repeatLookahead)
  fires : s.FiresAt t
  shown : (s.zone.readingAt t).seconds ≤ (s.zone.readingAt after.seconds).seconds +
    after.carry (s.zone.offsetAt after.seconds).seconds

section

variable (hs : s.WellFormed yearLimit) (hlimit : yearLimit ≤ Field.lastYear)
include hs hlimit

/-- **The search at one offset** finds the first moment at that offset with an
allowed reading between `reading` and `limit`. -/
theorem nextAtOffset_isFirst (offset : Offset) :
    IsFirst (· ≤ ·) (fun t => (after.seconds < t ∧ s.zone.offsetAt t = offset) ∧ s.FiresAt t ∧
      reading < s.zone.readingAt t ∧ s.zone.readingAt t ≤ limit)
      (s.nextAtOffset after offset limit reading) := by
  have hshow : ∀ {t}, s.zone.offsetAt t = offset →
      (s.zone.readingAt t).seconds = t + offset.seconds := by
    rintro t rfl
    rfl
  fun_induction nextAtOffset s after offset limit reading with
  | case1 reading hnone =>
    exact fun t h => nextReading_eq_none hs hlimit hnone _ h.2.2.1 h.2.1
  | case2 reading candidate hc hpast =>
    obtain ⟨-, -, hfirst⟩ := nextReading_eq_some hs hlimit hc
    intro t h
    exact Int.not_lt.2 (Int.le_trans (hfirst _ h.2.2.1 h.2.1) h.2.2.2) hpast
  | case3 reading candidate hc time hpast htime =>
    obtain ⟨hlt, hallows, hfirst⟩ := nextReading_eq_some hs hlimit hc
    have hshown : s.zone.readingAt time = candidate := by
      ext
      rw [hshow htime.2]
      exact Int.sub_add_cancel ..
    refine ⟨⟨htime, ?_, ?_, ?_⟩, fun t h => ?_⟩
    · rw [FiresAt, hshown]
      exact hallows
    · rw [hshown]
      exact hlt
    · rw [hshown]
      exact Int.not_lt.1 hpast
    · have hle := hfirst _ h.2.2.1 h.2.1
      rw [Reading.le_def, hshow h.1.2] at hle
      omega
  | case4 reading candidate hc time hpast htime ih =>
    obtain ⟨hlt, -, hfirst⟩ := nextReading_eq_some hs hlimit hc
    refine ih.congr fun t => ?_
    -- The candidate is not shown at this offset, so nothing is lost.
    refine and_congr_right fun hat => and_congr_right fun hfires => and_congr_left fun _ => ?_
    refine ⟨fun h => Int.lt_trans hlt h, fun h => ?_⟩
    rcases Int.lt_or_eq_of_le (hfirst _ h hfires) with hless | heq
    · exact hless
    · rw [hshow hat.2] at heq
      obtain rfl : t = candidate.seconds - offset.seconds := by omega
      exact absurd hat htime

/-- **The first moment that the search for repeated readings looks at.** -/
theorem nextRepeatedReading_isFirst_looksAt (hspaced : s.zone.Spaced)
    (hnanos : after.nanos < 2 * Instant.nanosPerSecond) :
    IsFirst (· ≤ ·) (s.LooksAt after) (s.nextRepeatedReading after) := by
  have hcarry := after.carry_nonneg (s.zone.offsetAt (after.seconds + repeatLookahead)).seconds
  rw [nextRepeatedReading_eq]
  dsimp only
  split
  · -- The clock is not set back until then, so no reading comes again.
    rename_i hforth
    have hmono := after.add_carry_le_add_carry hforth
    rintro t ⟨hbegun, hoffset, -, hshown⟩
    simp only [Zone.readingAt, hoffset] at hshown
    omega
  · rename_i hback
    have hne : s.zone.offsetAt after.seconds ≠
        s.zone.offsetAt (after.seconds + repeatLookahead) := by
      intro hsame
      rw [hsame] at hback
      exact hback (Int.le_refl _)
    obtain ⟨set, hset⟩ := exists_beginsAt hspaced (by rw [repeatLookahead]; omega)
      (by rw [repeatLookahead]; omega) hne
    have hfound : s.setAhead after = set := Instant.bisect_of_beginsAt_ahead hnanos hset
    rw [hfound]
    refine (nextAtOffset_isFirst hs hlimit _).congr fun t => ?_
    constructor
    · rintro ⟨⟨-, hoffset⟩, hfires, hstart, hshown⟩
      refine ⟨?_, hoffset, hfires, hshown⟩
      simp only [Reading.lt_def, Zone.readingAt, hoffset] at hstart
      omega
    · rintro ⟨hbegun, hoffset, hfires, hshown⟩
      -- The offset is in force from where the clock is set.
      have hafter : set ≤ t := by
        by_contra hlt
        have hle := hset.le
        exact hlt ((hset.iff t (by omega) (by omega)).1 (beq_iff_eq.2 hoffset))
      refine ⟨⟨by omega, hoffset⟩, hfires, ?_, hshown⟩
      simp only [Reading.lt_def, Zone.readingAt, hoffset]
      omega

/-- **The first moment with a reading that comes again**, of those at the offset that is
in force after `repeatLookahead`. -/
theorem nextRepeatedReading_isFirst_ahead (hspaced : s.zone.Spaced)
    (hleap : ¬ after.InLeapSecond) :
    IsFirst (· ≤ ·) (fun t => after.seconds < t ∧
      s.zone.offsetAt t = s.zone.offsetAt (after.seconds + repeatLookahead) ∧ s.FiresAt t ∧
      s.zone.readingAt t ≤ s.zone.readingAt after.seconds) (s.nextRepeatedReading after) := by
  have hnanos : after.nanos < 2 * Instant.nanosPerSecond := by
    rw [Instant.InLeapSecond] at hleap
    omega
  refine (nextRepeatedReading_isFirst_looksAt hs hlimit hspaced hnanos).congr fun t => ?_
  have hcarry := Instant.carry_of_not_leap hleap
  constructor
  · rintro ⟨hbegun, hoffset, hfires, hshown⟩
    rw [hcarry, Int.add_zero] at hbegun hshown
    exact ⟨hbegun, hoffset, hfires, hshown⟩
  · rintro ⟨hlt, hoffset, hfires, hle⟩
    exact ⟨by rwa [hcarry, Int.add_zero], hoffset, hfires, by rwa [hcarry, Int.add_zero]⟩

end

/-! ## The next fire time -/

/-- The earlier of two first moments is the first one of either kind. -/
theorem isFirst_either {P Q : Int → Prop} {first second : Option Int}
    (hfirst : IsFirst (· ≤ ·) P first) (hsecond : IsFirst (· ≤ ·) Q second) :
    IsFirst (· ≤ ·) (fun t => P t ∨ Q t) (match first, second with
      | some forward, some repeated => some (min forward repeated)
      | some forward, none => some forward
      | none, repeated => repeated) := by
  have hmin : ∀ a b : Int, min a b = a ∧ a ≤ b ∨ min a b = b ∧ b ≤ a := by
    intro a b
    omega
  have hmerge := hfirst.merge hsecond (fun _ _ _ => Int.le_trans) hmin
  cases first <;> cases second <;> exact hmerge

/-- **The next fire time is the first of what the two searches find.** -/
theorem nextAfter_isFirst_found (s : Schedule) (after : Instant) :
    ∃ answer, s.nextAfter after = answer.map .ofSeconds ∧
      IsFirst (· ≤ ·) (fun t => s.nextLaterReading after = some t ∨
        s.nextRepeatedReading after = some t) answer :=
  ⟨_, rfl, isFirst_either (.self Int.le_refl _) (.self Int.le_refl _)⟩

/-- **A search from `since` sees a moment**: the clock shows more then than at `since`,
or it goes by the offset that it has when `repeatLookahead` has passed. -/
def Sees (s : Schedule) (since t : Int) : Prop :=
  s.zone.readingAt since < s.zone.readingAt t ∨
    s.zone.offsetAt t = s.zone.offsetAt (since + repeatLookahead)

/-- Every later moment is seen where the clock is never set back by more than
`repeatLookahead`. -/
theorem Sees.of_setsBackAtMost {since : Int} (hspaced : s.zone.Spaced)
    (hback : s.zone.SetsBackAtMost repeatLookahead) (hlt : since < t) : s.Sees since t := by
  refine (Int.lt_or_le _ _).imp_right fun hle => ?_
  obtain ⟨hahead, -, hsame⟩ := comesAgain_spec hspaced hback since t hlt hle
  exact hsame _ hahead (Int.le_refl _)

section

variable (hs : s.WellFormed yearLimit) (hlimit : yearLimit ≤ Field.lastYear)
include hs hlimit

/-- **The next fire time is the first one that is seen**, by however much less than half a
day the clock is set back: it has a later reading, or one that comes again. -/
theorem nextAfter_isFirst_seen {span : Int} (hspaced : s.zone.Spaced)
    (hback : s.zone.SetsBackAtMost span) (hspan : 0 ≤ span) (hhalf : 2 * span < 86400)
    (hleap : ¬ after.InLeapSecond) :
    ∃ answer, s.nextAfter after = answer.map .ofSeconds ∧
      IsFirst (· ≤ ·) (fun t => after.seconds < t ∧ s.FiresAt t ∧ s.Sees after.seconds t)
        answer := by
  refine ⟨_, rfl, (isFirst_either
    (nextLaterReading_isFirst hs hlimit hspaced hback hspan hhalf)
    (nextRepeatedReading_isFirst_ahead hs hlimit hspaced hleap)).congr fun t => ?_⟩
  constructor
  · rintro (⟨hlt, hfires, hlater⟩ | ⟨hlt, hoffset, hfires, -⟩)
    · exact ⟨hlt, hfires, .inl hlater⟩
    · exact ⟨hlt, hfires, .inr hoffset⟩
  · rintro ⟨hlt, hfires, hsees⟩
    rcases Int.lt_or_le (s.zone.readingAt after.seconds).seconds
      (s.zone.readingAt t).seconds with hlater | hle
    · exact .inl ⟨hlt, hfires, hlater⟩
    · exact .inr ⟨hlt, hsees.resolve_left (Int.not_lt.2 hle), hfires, hle⟩

/-- The next fire time is the first one of all where all are seen. -/
theorem nextAfter_isFirst (hspaced : s.zone.Spaced)
    (hback : s.zone.SetsBackAtMost repeatLookahead) (hleap : ¬ after.InLeapSecond) :
    ∃ answer, s.nextAfter after = answer.map .ofSeconds ∧
      IsFirst (· ≤ ·) (fun t => after.seconds < t ∧ s.FiresAt t) answer := by
  obtain ⟨answer, heq, hfirst⟩ :=
    nextAfter_isFirst_seen hs hlimit hspaced hback (by decide) (by decide) hleap
  refine ⟨answer, heq, hfirst.congr fun t => ?_⟩
  exact and_congr_right fun hlt => and_iff_left (.of_setsBackAtMost hspaced hback hlt)

end

/-- Whole seconds after an instant are those after its own second. -/
theorem lt_ofSeconds_iff : after < .ofSeconds t ↔ after.seconds < t := by
  simp [Instant.lt_def, Instant.ofSeconds]

theorem map_ofSeconds_eq_some {answer : Option Int} :
    answer.map Instant.ofSeconds = some (.ofSeconds t) ↔ answer = some t := by
  cases answer <;> simp [Instant.ofSeconds]

/-- **The next fire time is the earliest second after `after` at which the clock
of the zone shows an allowed reading**, and there is none exactly when it shows
none. -/
theorem nextAfter_eq_iff {currentYear : Int} {zone : Zone} {text : String}
    (h : read (Field.yearLimit currentYear) zone text = .ok s) (hspaced : zone.Spaced)
    (hback : zone.SetsBackAtMost repeatLookahead) (hleap : ¬ after.InLeapSecond) :
    (∀ t, s.nextAfter after = some (.ofSeconds t) ↔
      after < .ofSeconds t ∧ s.FiresAt t ∧
        ∀ t', after < .ofSeconds t' → s.FiresAt t' → t ≤ t') ∧
    (s.nextAfter after = none ↔ ∀ t, after < .ofSeconds t → ¬ s.FiresAt t) := by
  have hlimit : Field.yearLimit currentYear ≤ Field.lastYear := Nat.min_le_right _ _
  have hs := wellFormed_of_read (hlimit.trans (by decide)) h
  obtain rfl := zone_of_read (hlimit.trans (by decide)) h
  obtain ⟨answer, heq, hfirst⟩ := nextAfter_isFirst hs hlimit hspaced hback hleap
  rw [heq]
  simp only [lt_ofSeconds_iff]
  refine ⟨fun t => ?_, ?_⟩
  · rw [map_ofSeconds_eq_some, hfirst.eq_some_iff fun _ _ => Int.le_antisymm]
    simp only [and_imp, and_assoc]
  · rw [Option.map_eq_none_iff, hfirst.eq_none_iff]
    simp only [not_and]

/-- At Casey the clock went back by three hours on 2010-03-05 at 02:00. Half an hour
before, the next midnight is the same one again. -/
theorem nextAfter_midnightAgain :
    ∃ s, read (Field.yearLimit 2025) .antarcticaCasey "0 0 0 * * ?" = .ok s ∧
      Zone.antarcticaCasey.Spaced ∧ Zone.antarcticaCasey.SetsBackAtMost repeatLookahead ∧
      ¬ Instant.InLeapSecond ⟨1267713000, 500000000⟩ ∧ s.FiresAt 1267718400 ∧
      ∀ t, ⟨1267713000, 500000000⟩ < Instant.ofSeconds t → s.FiresAt t → 1267718400 ≤ t := by
  have hspaced : Zone.antarcticaCasey.Spaced := by decide
  have hback : Zone.antarcticaCasey.SetsBackAtMost repeatLookahead := by decide
  have hleap : ¬ Instant.InLeapSecond ⟨1267713000, 500000000⟩ := by decide
  obtain ⟨s, hs, hnext⟩ := exists_of_bind_eq_some
    (by decide +kernel : (read (Field.yearLimit 2025) .antarcticaCasey "0 0 0 * * ?").toOption.bind
      (·.nextAfter ⟨1267713000, 500000000⟩) = some (.ofSeconds 1267718400))
  have hfirst := ((nextAfter_eq_iff hs hspaced hback hleap).1 1267718400).1 hnext
  exact ⟨s, hs, hspaced, hback, hleap, hfirst.2⟩

end Schedule

end CronSchedule
