import CronSchedule.Proofs.Calendar.DayNumber

/-!
# The dates of a month

What a rule about days can ask of a date within its month: which dates come
before it and after it, which weekday it is, and which date from Monday to
Friday is nearest to it. The definitions count dates; the lemmas say what they
come to as arithmetic on the day of the month (`length_laterDates`,
`countP_earlierDates`, `isNearestWeekdayTo_iff`).
-/

namespace CronSchedule

open Calendar

namespace Date

/-- The dates of the month that a date lies in. -/
def monthDates (date : Date) : List Date :=
  (List.range' 1 date.monthLength).map date.withDay

/-- Those of them that come before the date. -/
def earlierDates (date : Date) : List Date :=
  date.monthDates.filter (·.day < date.day)

/-- Those of them that come after the date. -/
def laterDates (date : Date) : List Date :=
  date.monthDates.filter (date.day < ·.day)

/-- The date is from Monday to Friday. -/
def IsWorkday (date : Date) : Prop :=
  2 ≤ date.weekday ∧ date.weekday ≤ 6

/-- Days between two dates. -/
def distance (a b : Date) : Nat :=
  (a.dayNumber - b.dayNumber).natAbs

/-- The date is from Monday to Friday, in the month of `target`, and closer to
`target` than any other such date. -/
def IsNearestWeekdayTo (date target : Date) : Prop :=
  date ∈ target.monthDates ∧ date.IsWorkday ∧
    ∀ other ∈ target.monthDates, other.IsWorkday → other ≠ date →
      date.distance target < other.distance target

instance (date : Date) : Decidable date.IsWorkday :=
  inferInstanceAs (Decidable (_ ∧ _))

instance (date target : Date) : Decidable (date.IsNearestWeekdayTo target) :=
  inferInstanceAs (Decidable (_ ∧ _ ∧ ∀ _ ∈ _, _ → _ → _))

theorem mem_monthDates {date other : Date} :
    other ∈ date.monthDates ↔
      other.year = date.year ∧ other.month = date.month ∧ 1 ≤ other.day ∧
        other.day ≤ date.monthLength := by
  simp only [monthDates, List.mem_map, List.mem_range'_1]
  constructor
  · rintro ⟨day, hday, rfl⟩
    exact ⟨rfl, rfl, hday.1, by rw [day_withDay]; omega⟩
  · rintro ⟨hy, hm, h1, hlen⟩
    refine ⟨other.day, by omega, ?_⟩
    rw [withDay, ← hy, ← hm]

theorem valid_of_mem_monthDates {date target : Date} (hd : date.Valid)
    (h : target ∈ date.monthDates) : target.Valid := by
  obtain ⟨hy, hm, h1, hlen⟩ := mem_monthDates.1 h
  refine ⟨hm ▸ hd.1, hm ▸ hd.2.1, h1, ?_⟩
  rw [hy, hm]
  exact hlen

theorem mem_laterDates {date other : Date} :
    other ∈ date.laterDates ↔ other ∈ date.monthDates ∧ date.day < other.day := by
  simp [laterDates]

/-- The weekday of a date by where its month begins. -/
theorem weekday_eq (date : Date) :
    date.weekday = ((date.firstDay + date.day + 3) % 7).toNat + 1 := by
  rw [weekday, Calendar.weekday, dayNumber_eq]
  congr 3
  omega

/-- The days of a month up to one of them, and those after it. -/
theorem range'_monthLength {date : Date} (h : date.Valid) :
    List.range' 1 date.monthLength =
      List.range' 1 (date.day - 1) ++ date.day ::
        List.range' (date.day + 1) (date.monthLength - date.day) := by
  obtain ⟨-, -, h1, hlen⟩ := h
  rw [← List.range'_succ, show List.range' 1 date.monthLength =
    List.range' 1 (date.day - 1 + (date.monthLength - date.day + 1)) by
      congr 1; simp only [monthLength]; omega, ← List.range'_append_1]
  rw [show 1 + (date.day - 1) = date.day by omega]

/-- As many dates come after a date as days are left in its month. -/
theorem length_laterDates {date : Date} (h : date.Valid) :
    date.laterDates.length = date.monthLength - date.day := by
  rw [laterDates, monthDates, List.filter_map, List.length_map, range'_monthLength h,
    List.filter_append, List.filter_cons, List.filter_eq_nil_iff.2, List.filter_eq_self.2]
  · simp
  · intro day hday
    simp only [List.mem_range'_1] at hday
    simp only [Function.comp, decide_eq_true_eq]
    rw [day_withDay]
    omega
  · intro day hday
    simp only [List.mem_range'_1] at hday
    simp only [Function.comp, decide_eq_true_eq]
    rw [day_withDay]
    omega

/-- In every seven days a weekday comes back once. -/
theorem countP_range'_mod_seven :
    ∀ n < 31, (List.range' 1 n).countP (fun day => day % 7 = (n + 1) % 7) = n / 7 := by
  decide

/-- A weekday of a date has come once in each whole week of the month before it. -/
theorem countP_earlierDates {date : Date} (h : date.Valid) :
    date.earlierDates.countP (·.weekday = date.weekday) = (date.day - 1) / 7 := by
  have hlen := monthLength_le date.year date.month
  have hday31 := h.2.2.2
  -- What comes after the date is not counted.
  have hafter : (List.range' (date.day + 1) (date.monthLength - date.day)).countP
      ((fun d : Date => decide (d.weekday = date.weekday) && decide (d.day < date.day)) ∘
        date.withDay) = 0 := by
    refine List.countP_eq_zero.2 fun day hday => ?_
    simp only [List.mem_range'_1] at hday
    simp only [Function.comp, Bool.and_eq_true, decide_eq_true_eq]
    rw [day_withDay]
    omega
  rw [earlierDates, monthDates, List.countP_filter, List.countP_map, range'_monthLength h,
    List.countP_append, List.countP_cons_of_neg (by simp), hafter, Nat.add_zero,
    ← countP_range'_mod_seven (date.day - 1) (by omega)]
  refine List.countP_congr fun day hday => ?_
  have := h.2.2.1
  simp only [List.mem_range'_1] at hday
  simp only [Function.comp, Bool.and_eq_true, decide_eq_true_eq]
  rw [weekday_eq, weekday_eq, firstDay_withDay, day_withDay]
  omega

/-! ## The nearest weekday -/

theorem isNearestWeekdayTo_unique {a b target : Date} (ha : a.IsNearestWeekdayTo target)
    (hb : b.IsNearestWeekdayTo target) : a = b := by
  by_cases h : a = b
  · exact h
  · have h₁ := ha.2.2 b hb.1 hb.2.1 fun h' => h h'.symm
    have h₂ := hb.2.2 a ha.1 ha.2.1 h
    omega

/-- The four ways in which the nearest weekday lies to a date. -/
theorem nearestWeekday_cases (date : Date) :
    (date.weekday = 7 ∧ date.day = 1 ∧ date.nearestWeekday = date.day + 2) ∨
    (date.weekday = 7 ∧ date.day ≠ 1 ∧ date.nearestWeekday = date.day - 1) ∨
    (date.weekday = 1 ∧ date.day = date.monthLength ∧ date.nearestWeekday = date.day - 2) ∨
    (date.weekday = 1 ∧ date.day ≠ date.monthLength ∧ date.nearestWeekday = date.day + 1) ∨
    (date.IsWorkday ∧ date.nearestWeekday = date.day) := by
  have hbound : 1 ≤ date.weekday ∧ date.weekday ≤ 7 := by
    rw [weekday_eq]
    omega
  unfold nearestWeekday IsWorkday
  split <;> (try split) <;> simp_all
  omega

/-- **The nearest weekday is nearest.** -/
theorem isNearestWeekdayTo_nearestWeekday {target : Date} (h : target.Valid) :
    IsNearestWeekdayTo (target.withDay target.nearestWeekday) target := by
  obtain ⟨-, -, h1, hlen⟩ := h
  -- Two days from either end are still in the month.
  have hlen28 := le_monthLength target.year target.month
  have hw := weekday_eq target
  have hd := dayNumber_eq target
  have hcases := nearestWeekday_cases target
  generalize target.nearestWeekday = n at *
  simp only [IsWorkday, monthLength] at *
  simp only [IsNearestWeekdayTo, mem_monthDates, IsWorkday, distance, dayNumber_eq, weekday_eq,
    firstDay_withDay, day_withDay, monthLength]
  refine ⟨⟨rfl, rfl, by omega, by omega⟩, by omega, ?_⟩
  -- Another workday of the month is another day, and those between are no workdays.
  rintro ⟨year, month, day⟩ ⟨rfl, rfl, ho1, holen⟩ hwork hne
  have hday : day ≠ n := by
    rintro rfl
    exact hne rfl
  change 1 ≤ day at ho1
  change day ≤ _ at holen
  change _ ≤ ((target.firstDay + day + 3) % 7).toNat + 1 ∧
    ((target.firstDay + day + 3) % 7).toNat + 1 ≤ _ at hwork
  change _ < (target.firstDay + day - 1 - (target.firstDay + target.day - 1)).natAbs
  omega

theorem isNearestWeekdayTo_iff {date target : Date} (h : target.Valid) :
    date.IsNearestWeekdayTo target ↔ date = target.withDay target.nearestWeekday := by
  have hn := isNearestWeekdayTo_nearestWeekday h
  exact ⟨fun hd => isNearestWeekdayTo_unique hd hn, fun hd => hd ▸ hn⟩

end Date

end CronSchedule
