import CronSchedule.Proofs.Schedule.Read
import CronSchedule.Search.Previous

/-!
# How far apart the fire times of a day are

`Schedule.leastIncrement` is a guess at the least distance between two fire times of a day. It
is the least gap in the first of the fields second, minute and hour that has more than one
value (`leastIncrement_eq`), and so never too large within one minute, or one hour. From one
minute to the next it can be, since a gap says nothing about the way from the last value of a
set to the first one of its next round (`ValueSet.IsSpacedAround`). Whether it is depends on
just that, where two minutes, or hours, in a row are allowed (`leastIncrement_le_iff`).
-/

namespace CronSchedule

namespace ValueSet

variable {set : ValueSet} {a b : Nat}

/-- The least gap of a set; 1 if it has no two members. -/
def leastGap (set : ValueSet) : Nat :=
  set.leastGap?.getD 1

/-- On a dial of sixty, no member is closer than the least gap to one of the next round. -/
def IsSpacedAround (set : ValueSet) : Prop :=
  ∀ a ∈ set.values, ∀ b ∈ set.values, b + set.leastGap ≤ 60 + a

instance (set : ValueSet) : Decidable set.IsSpacedAround :=
  inferInstanceAs (Decidable (∀ _ ∈ _, _))

/-- Two members have one gap at least between them. -/
theorem exists_gap_le {values : List Nat} (h : values.Pairwise (· < ·)) (ha : a ∈ values)
    (hb : b ∈ values) (hlt : a < b) :
    ∃ gap ∈ List.zipWith (fun a b => b - a) values values.tail, a + gap ≤ b := by
  induction values with
  | nil => cases ha
  | cons first rest ih =>
    obtain ⟨hfirst, hrest⟩ := List.pairwise_cons.1 h
    have hbrest : b ∈ rest := by
      rcases List.mem_cons.1 hb with rfl | hb
      · rcases List.mem_cons.1 ha with rfl | ha
        · exact absurd hlt (Nat.lt_irrefl a)
        · exact absurd hlt (Nat.lt_asymm (hfirst a ha))
      · exact hb
    cases rest with
    | nil => cases hbrest
    | cons second later =>
      rcases List.mem_cons.1 ha with rfl | ha
      · have hsecond : second ≤ b := by
          rcases List.mem_cons.1 hbrest with rfl | hb
          · exact Nat.le_refl b
          · exact Nat.le_of_lt ((List.pairwise_cons.1 hrest).1 b hb)
        have := hfirst second List.mem_cons_self
        exact ⟨second - a, List.mem_cons_self, by omega⟩
      · obtain ⟨gap, hgap, hle⟩ := ih hrest ha hbrest
        exact ⟨gap, List.mem_cons_of_mem _ hgap, hle⟩

/-- A gap is the distance of two members. -/
theorem exists_of_mem_gaps {values : List Nat} {gap : Nat} (h : values.Pairwise (· < ·))
    (hgap : gap ∈ List.zipWith (fun a b => b - a) values values.tail) :
    ∃ a ∈ values, ∃ b ∈ values, a < b ∧ gap = b - a := by
  induction values with
  | nil => cases hgap
  | cons first rest ih =>
    obtain ⟨hfirst, hrest⟩ := List.pairwise_cons.1 h
    cases rest with
    | nil => cases hgap
    | cons second later =>
      rcases List.mem_cons.1 hgap with rfl | hgap
      · exact ⟨first, by simp, second, by simp, hfirst second List.mem_cons_self, rfl⟩
      · obtain ⟨a, ha, b, hb, hlt, heq⟩ := ih hrest hgap
        exact ⟨a, List.mem_cons_of_mem _ ha, b, List.mem_cons_of_mem _ hb, hlt, heq⟩

theorem leastGap_cases (set : ValueSet) : set.leastGap = 1 ∨
    ∃ a ∈ set.values, ∃ b ∈ set.values, a < b ∧ set.leastGap = b - a := by
  unfold leastGap
  cases hleast : set.leastGap? with
  | none => exact .inl rfl
  | some gap => exact .inr (exists_of_mem_gaps set.sorted (List.min?_mem hleast))

theorem leastGap_pos (set : ValueSet) : 0 < set.leastGap := by
  rcases set.leastGap_cases with h | ⟨a, -, b, -, hlt, h⟩ <;> omega

theorem leastGap_le {bound : Nat} (hbound : 0 < bound) (h : ∀ a ∈ set.values, a ≤ bound) :
    set.leastGap ≤ bound := by
  rcases set.leastGap_cases with heq | ⟨a, -, b, hb, -, heq⟩
  · omega
  · have := h b hb
    omega

/-- **Members are the least gap apart**, or more. -/
theorem add_leastGap_le (ha : a ∈ set.values) (hb : b ∈ set.values) (hlt : a < b) :
    a + set.leastGap ≤ b := by
  obtain ⟨gap, hmem, hle⟩ := exists_gap_le set.sorted ha hb hlt
  cases hleast : set.leastGap? with
  | none =>
    rw [leastGap?, List.min?_eq_none_iff] at hleast
    rw [hleast] at hmem
    cases hmem
  | some least =>
    have := (List.min?_eq_some_iff.1 hleast).2 gap hmem
    rw [leastGap, hleast, Option.getD_some]
    omega

theorem eq_of_size_eq_one (hsize : set.size = 1) (ha : a ∈ set.values) (hb : b ∈ set.values) :
    a = b := by
  obtain ⟨only, hvalues⟩ := List.length_eq_one_iff.1 hsize
  rw [hvalues, List.mem_singleton] at ha hb
  rw [ha, hb]

theorem exists_lt_of_size_ne_one (hne : set.values ≠ []) (hsize : set.size ≠ 1) :
    ∃ a ∈ set.values, ∃ b ∈ set.values, a < b := by
  have hsorted := set.sorted
  unfold size at hsize
  cases hvalues : set.values with
  | nil => exact absurd hvalues hne
  | cons first rest =>
    rw [hvalues] at hsize hsorted
    cases rest with
    | nil => exact absurd rfl hsize
    | cons second later =>
      exact ⟨first, by simp, second, by simp, (List.pairwise_cons.1 hsorted).1 second (by simp)⟩

/-- **Numbers of two places, the lower one a member of a set on a dial of sixty, are the least
gap apart exactly when the set is spaced around the dial**, as far as two upper places in a
row occur at all. -/
theorem forall_add_leastGap_le_iff {P : Nat → Prop} (hne : set.values ≠ [])
    (hsize : set.size ≠ 1) (hbounds : ∀ a ∈ set.values, a ≤ 59) :
    (∀ u u', P u → P u' → ∀ a ∈ set.values, ∀ b ∈ set.values, u * 60 + a < u' * 60 + b →
      u * 60 + a + set.leastGap ≤ u' * 60 + b) ↔
    ((∃ u, P u ∧ P (u + 1)) → set.IsSpacedAround) := by
  constructor
  · rintro h ⟨u, hu, hnext⟩ a ha b hb
    have := hbounds b hb
    have := h u (u + 1) hu hnext b hb a ha (by omega)
    omega
  · intro h u u' hu hu' a ha b hb hlt
    have := hbounds a ha
    rcases Nat.lt_trichotomy u u' with hup | rfl | hdown
    · rcases Nat.lt_or_ge (u + 1) u' with hfar | hnear
      · -- A whole round lies between, and no gap is that large.
        obtain ⟨c, hc, d, hd, hcd⟩ := exists_lt_of_size_ne_one hne hsize
        have := add_leastGap_le hc hd hcd
        have := hbounds d hd
        omega
      · obtain rfl : u' = u + 1 := by omega
        have := h ⟨u, hu, hu'⟩ b hb a ha
        omega
    · have := add_leastGap_le ha hb (by omega)
      omega
    · have := hbounds b hb
      omega

end ValueSet

namespace Schedule

variable {s : Schedule} {r r' : Reading} {day : Int}

/-- The guess, field by field. -/
theorem leastIncrement_eq (s : Schedule) : s.leastIncrement =
    if (s.field .second).size = 1 then
      if (s.field .minute).size = 1 then
        if (s.field .hour).size = 1 then 86400 else (s.field .hour).leastGap * 3600
      else (s.field .minute).leastGap * 60
    else (s.field .second).leastGap := by
  unfold leastIncrement ValueSet.leastGap
  dsimp only
  rw [Nat.mul_one]
  split_ifs <;> rfl

/-- The guess is not zero. -/
theorem leastIncrement_pos (s : Schedule) : 0 < s.leastIncrement := by
  have hsecond := (s.field .second).leastGap_pos
  have hminute := (s.field .minute).leastGap_pos
  have hhour := (s.field .hour).leastGap_pos
  rw [leastIncrement_eq]
  split_ifs <;> omega

/-- The guess is no longer than a day. -/
theorem leastIncrement_le_day {yearLimit : Nat} (hs : s.WellFormed yearLimit) :
    s.leastIncrement ≤ 86400 := by
  have hle : ∀ field : Field, ∀ value ∈ (s.field field).values, value ≤ field.greatest yearLimit :=
    fun field value hvalue => (hs.bounds field value hvalue).2
  have hsecond : (s.field .second).leastGap ≤ 59 := ValueSet.leastGap_le (by decide) (hle .second)
  have hminute : (s.field .minute).leastGap ≤ 59 := ValueSet.leastGap_le (by decide) (hle .minute)
  have hhour : (s.field .hour).leastGap ≤ 23 := ValueSet.leastGap_le (by decide) (hle .hour)
  rw [leastIncrement_eq]
  split_ifs <;> omega

/-- The schedule allows a minute of the day, counted from midnight. -/
def AllowsMinute (s : Schedule) (minute : Nat) : Prop :=
  minute % 60 ∈ (s.field .minute).values ∧ minute / 60 ∈ (s.field .hour).values

instance (s : Schedule) (minute : Nat) : Decidable (s.AllowsMinute minute) :=
  inferInstanceAs (Decidable (_ ∧ _))

theorem allowsMinute_iff {hour minute : Nat} (hminute : minute ≤ 59) :
    s.AllowsMinute (hour * 60 + minute) ↔
      minute ∈ (s.field .minute).values ∧ hour ∈ (s.field .hour).values := by
  rw [AllowsMinute, show (hour * 60 + minute) % 60 = minute by omega,
    show (hour * 60 + minute) / 60 = hour by omega]

/-- Allowed readings that come on one date are as far apart as the guess says. -/
def IsSpaced (s : Schedule) : Prop :=
  ∀ r r' : Reading, s.Allows r → s.Allows r' → r.date = r'.date → r < r' →
    r.seconds + s.leastIncrement ≤ r'.seconds

section

variable {yearLimit : Nat} (hs : s.WellFormed yearLimit)
include hs

theorem dayNumber_ofParts_minute {u a : Nat} (hu : s.AllowsMinute u)
    (ha : a ∈ (s.field .second).values) : (Reading.ofParts day 0 u a).dayNumber = day := by
  have hsecond : a ≤ 59 := (hs.bounds .second _ ha).2
  have hhour : u / 60 ≤ 23 := (hs.bounds .hour _ hu.2).2
  simp only [Reading.dayNumber, Reading.ofParts]
  omega

/-- On the day of an allowed reading, every allowed second of an allowed minute is one too. -/
theorem allows_ofParts_minute {u a : Nat} (hr : s.Allows r) (hu : s.AllowsMinute u)
    (ha : a ∈ (s.field .second).values) : s.Allows (.ofParts r.dayNumber 0 u a) := by
  have hsecond : a ≤ 59 := (hs.bounds .second _ ha).2
  have hday : (Reading.ofParts r.dayNumber 0 u a).dayNumber = r.dayNumber :=
    dayNumber_ofParts_minute hs hu ha
  have hparts := (Reading.ofParts r.dayNumber 0 u a).parts_spec
  rw [hday] at hparts
  simp only [Reading.ofParts] at hparts
  refine ⟨⟨?_, ?_, ?_⟩, ?_, ?_⟩
  · rwa [show (Reading.ofParts r.dayNumber 0 u a).second = a by
      simp only [Reading.ofParts]; omega]
  · rw [show (Reading.ofParts r.dayNumber 0 u a).minute = u % 60 by
      simp only [Reading.ofParts]; omega]
    exact hu.1
  · rw [show (Reading.ofParts r.dayNumber 0 u a).hour = u / 60 by
      simp only [Reading.ofParts]; omega]
    exact hu.2
  · rw [Reading.date, hday]
    exact hr.2.1
  · rw [Reading.date, hday]
    exact hr.2.2

/-- **The readings of a date, by their minutes and seconds.** -/
theorem isSpaced_iff : s.IsSpaced ↔ ((∃ r, s.Allows r) →
    ∀ u u', s.AllowsMinute u → s.AllowsMinute u' →
      ∀ a ∈ (s.field .second).values, ∀ b ∈ (s.field .second).values,
        u * 60 + a < u' * 60 + b → u * 60 + a + s.leastIncrement ≤ u' * 60 + b) := by
  constructor
  · rintro h ⟨r, hr⟩ u u' hu hu' a ha b hb hlt
    have hdate : (Reading.ofParts r.dayNumber 0 u a).date =
        (Reading.ofParts r.dayNumber 0 u' b).date := by
      rw [Reading.date, Reading.date, dayNumber_ofParts_minute hs hu ha,
        dayNumber_ofParts_minute hs hu' hb]
    have := h _ _ (allows_ofParts_minute hs hr hu ha) (allows_ofParts_minute hs hr hu' hb) hdate
    simp only [Reading.lt_def, Reading.ofParts] at this
    omega
  · intro h r r' hr hr' hdate hlt
    have hday : r.dayNumber = r'.dayNumber := by
      rw [← Reading.dayNumber_date, hdate, Reading.dayNumber_date]
    obtain ⟨hsum, -, hminute, -⟩ := r.parts_spec
    obtain ⟨hsum', -, hminute', -⟩ := r'.parts_spec
    have := h ⟨r, hr⟩ (r.hour * 60 + r.minute) (r'.hour * 60 + r'.minute)
      ((allowsMinute_iff (by omega)).2 ⟨hr.1.2.1, hr.1.2.2⟩)
      ((allowsMinute_iff (by omega)).2 ⟨hr'.1.2.1, hr'.1.2.2⟩)
      r.second hr.1.1 r'.second hr'.1.1
    rw [Reading.lt_def] at hlt
    omega

/-! ## Where the guess is right -/

/-- Where several seconds of a minute are allowed, the minutes count that come in a row. -/
theorem isSpaced_iff_of_seconds (hsecond : (s.field .second).size ≠ 1) :
    s.IsSpaced ↔ ((∃ r, s.Allows r) →
      (∃ u, s.AllowsMinute u ∧ s.AllowsMinute (u + 1)) → (s.field .second).IsSpacedAround) := by
  rw [isSpaced_iff hs, leastIncrement_eq, if_neg hsecond]
  exact imp_congr_right fun _ => ValueSet.forall_add_leastGap_le_iff
    (hs.nonempty .second rfl) hsecond fun a ha => (hs.bounds .second a ha).2

/-- Where one second of a minute is allowed, but several minutes of an hour, the hours do. -/
theorem isSpaced_iff_of_minutes (hsecond : (s.field .second).size = 1)
    (hminute : (s.field .minute).size ≠ 1) :
    s.IsSpaced ↔ ((∃ r, s.Allows r) →
      (∃ hour, hour ∈ (s.field .hour).values ∧ hour + 1 ∈ (s.field .hour).values) →
        (s.field .minute).IsSpacedAround) := by
  have hbounds : ∀ a ∈ (s.field .minute).values, a ≤ 59 := fun a ha => (hs.bounds .minute a ha).2
  rw [isSpaced_iff hs, leastIncrement_eq, if_pos hsecond, if_neg hminute]
  refine imp_congr_right fun _ => ?_
  rw [← ValueSet.forall_add_leastGap_le_iff (hs.nonempty .minute rfl) hminute hbounds]
  constructor
  · intro h u u' hu hu' a ha b hb hlt
    obtain ⟨second, hmem⟩ := List.exists_mem_of_ne_nil _ (hs.nonempty .second rfl)
    have := h (u * 60 + a) (u' * 60 + b) ((allowsMinute_iff (hbounds a ha)).2 ⟨ha, hu⟩)
      ((allowsMinute_iff (hbounds b hb)).2 ⟨hb, hu'⟩) second hmem second hmem
    omega
  · intro h u u' hu hu' a ha b hb hlt
    obtain rfl := ValueSet.eq_of_size_eq_one hsecond ha hb
    have := h (u / 60) (u' / 60) hu.2 hu'.2 (u % 60) hu.1 (u' % 60) hu'.1
    omega

/-- Where one second and one minute of an hour are allowed, nothing can go wrong. -/
theorem isSpaced_of_hours (hsecond : (s.field .second).size = 1)
    (hminute : (s.field .minute).size = 1) : s.IsSpaced := by
  rw [isSpaced_iff hs, leastIncrement_eq, if_pos hsecond, if_pos hminute]
  intro _ u u' hu hu' a ha b hb hlt
  obtain rfl := ValueSet.eq_of_size_eq_one hsecond ha hb
  have hsame := ValueSet.eq_of_size_eq_one hminute hu.1 hu'.1
  split
  · rename_i hhour
    have := ValueSet.eq_of_size_eq_one hhour hu.2 hu'.2
    omega
  · have := ValueSet.add_leastGap_le hu.2 hu'.2 (by omega)
    omega

end

/-- **When two allowed readings of one date are at least `leastIncrement` apart**: unless the
first set with more than one value leaves less than its least gap on the way around, and is
gone around at once, in the next minute of the day or the next hour. -/
theorem leastIncrement_le_iff {yearLimit : UInt32} {zone : Zone} {text : String}
    (h : read yearLimit.toNat zone text = .ok s) :
    (∀ r r' : Reading, s.Allows r → s.Allows r' → r.date = r'.date → r < r' →
      r.seconds + s.leastIncrement ≤ r'.seconds) ↔
    ((∃ r, s.Allows r) →
      ((s.field .second).size ≠ 1 →
        (∃ minute, s.AllowsMinute minute ∧ s.AllowsMinute (minute + 1)) →
          (s.field .second).IsSpacedAround) ∧
      ((s.field .second).size = 1 → (s.field .minute).size ≠ 1 →
        (∃ hour, hour ∈ (s.field .hour).values ∧ hour + 1 ∈ (s.field .hour).values) →
          (s.field .minute).IsSpacedAround)) := by
  have hs := wellFormed_of_read (Nat.le_of_lt_succ yearLimit.toNat_lt) h
  change s.IsSpaced ↔ _
  by_cases hsecond : (s.field .second).size = 1
  · by_cases hminute : (s.field .minute).size = 1
    · simp [isSpaced_of_hours hs hsecond hminute, hsecond, hminute]
    · simp [isSpaced_iff_of_minutes hs hsecond hminute, hsecond, hminute]
  · simp [isSpaced_iff_of_seconds hs hsecond, hsecond]

/-- Every twenty seconds of every seventh minute: 20 is the distance from 40 to 60 as well, so
the distance of the minutes does not matter. -/
theorem leastIncrement_le_officeHours :
    ∃ s, read (2125 : UInt32).toNat .utc "*/20 */7 9-17 ? * MON-FRI" = .ok s ∧
      s.leastIncrement = 20 ∧
      ∀ r r' : Reading, s.Allows r → s.Allows r' → r.date = r'.date → r < r' →
        r.seconds + s.leastIncrement ≤ r'.seconds := by
  obtain ⟨s, hs, hvalues⟩ := exists_of_bind_eq_some
    (by decide +kernel : (read (2125 : UInt32).toNat .utc "*/20 */7 9-17 ? * MON-FRI").toOption.bind
      (fun s => some (s.leastIncrement, (s.field .second).size,
        decide (s.field .second).IsSpacedAround)) = some (20, 3, true))
  simp only [Option.some.injEq, Prod.mk.injEq, decide_eq_true_eq] at hvalues
  obtain ⟨hincrement, hsize, hspaced⟩ := hvalues
  refine ⟨s, hs, hincrement, (leastIncrement_le_iff hs).2 fun _ => ⟨fun _ _ => hspaced, ?_⟩⟩
  exact fun hone => absurd (hsize.symm.trans hone) (by decide)

/-- **At the seconds 0 and 59 of every minute the increment is 59, but the last fire time of a
minute and the first one of the next are a second apart.** -/
theorem not_forall_leastIncrement_le :
    ¬ ∀ (yearLimit : UInt32) (zone : Zone) (text : String) (s : Schedule),
      read yearLimit.toNat zone text = .ok s →
      ∀ r r' : Reading, s.Allows r → s.Allows r' → r.date = r'.date → r < r' →
        r.seconds + s.leastIncrement ≤ r'.seconds := by
  intro hall
  obtain ⟨s, hs, hvalues⟩ := exists_of_bind_eq_some
    (by decide +kernel : (read (2125 : UInt32).toNat .utc "0,59 * * * * ?").toOption.bind
      (fun s => some (s.leastIncrement, decide (s.Allows ⟨59⟩), decide (s.Allows ⟨60⟩))) =
        some (59, true, true))
  simp only [Option.some.injEq, Prod.mk.injEq, decide_eq_true_eq] at hvalues
  obtain ⟨hincrement, hbefore, hafter⟩ := hvalues
  have hle := hall 2125 .utc _ s hs ⟨59⟩ ⟨60⟩ hbefore hafter (by decide) (by decide)
  rw [hincrement] at hle
  exact absurd hle (by decide)

end Schedule

end CronSchedule
