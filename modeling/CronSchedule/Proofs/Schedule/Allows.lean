import CronSchedule.Proofs.Calendar.Month
import CronSchedule.Schedule.Basic

/-!
# What a schedule allows

The meaning of a schedule, without any search: a reading is allowed when each of
its parts is in the set of its field and its date obeys the day rule. The day
rules are said by the dates of the month alone (`DayRule.Accepts`), and the
lemmas of the second half turn them into arithmetic on the day of the month.
`Schedule.WellFormed` collects what the sets and the day rule of an expression
that has been read are like.
-/

namespace CronSchedule

open Calendar

namespace DayRule

/-- The rule accepts a date; `dayOfMonth` and `dayOfWeek` are the listed values. -/
def Accepts (dayOfMonth dayOfWeek : ValueSet) (date : Date) : DayRule → Prop
  | any => True
  | monthDays => date.day ∈ dayOfMonth.values
  | lastDay offset false => date.laterDates.length = offset
  | lastDay offset true =>
    ∃ target ∈ date.monthDates, target.laterDates.length = offset ∧
      date.IsNearestWeekdayTo target
  | nearestWeekday day =>
    ∃ target ∈ date.monthDates, target.day = day ∧ date.IsNearestWeekdayTo target
  | weekDays => date.weekday ∈ dayOfWeek.values
  | lastWeekday weekday =>
    date.weekday = weekday ∧ ∀ later ∈ date.laterDates, later.weekday ≠ weekday
  | nthWeekday weekday nth =>
    date.weekday = weekday ∧ date.earlierDates.countP (·.weekday = weekday) + 1 = nth

instance (dayOfMonth dayOfWeek : ValueSet) (date : Date) (rule : DayRule) :
    Decidable (rule.Accepts dayOfMonth dayOfWeek date) :=
  match rule with
  | any => inferInstanceAs (Decidable True)
  | monthDays => inferInstanceAs (Decidable (_ ∈ _))
  | lastDay _ false => inferInstanceAs (Decidable (_ = _))
  | lastDay _ true => inferInstanceAs (Decidable (∃ _ ∈ _, _))
  | nearestWeekday _ => inferInstanceAs (Decidable (∃ _ ∈ _, _))
  | weekDays => inferInstanceAs (Decidable (_ ∈ _))
  | lastWeekday _ => inferInstanceAs (Decidable (_ ∧ _))
  | nthWeekday _ _ => inferInstanceAs (Decidable (_ ∧ _))

/-- What the values of a rule are like, next to those of the two day fields: a
rule about one day keeps it as the only value of its field. -/
def Fits (dayOfMonth dayOfWeek : ValueSet) : DayRule → Prop
  | any => True
  | monthDays => dayOfMonth.values ≠ [] ∧ dayOfMonth.isAll = false
  | lastDay offset _ =>
    offset ≤ Expression.greatestLastDayOffset ∧ dayOfMonth.values = [] ∧
      dayOfMonth.isUnspecified = false
  | nearestWeekday day => dayOfMonth.values = [day]
  | weekDays => dayOfWeek.values ≠ [] ∧ dayOfWeek.isAll = false
  | lastWeekday weekday => dayOfWeek.values = [weekday]
  | nthWeekday weekday nth => dayOfWeek.values = [weekday] ∧ 1 ≤ nth ∧ nth ≤ 5

end DayRule

namespace Schedule

/-- The time of day of a reading is allowed. -/
def AllowsTime (s : Schedule) (r : Reading) : Prop :=
  r.second ∈ (s.field .second).values ∧ r.minute ∈ (s.field .minute).values ∧
    r.hour ∈ (s.field .hour).values

/-- The day rule accepts a date. -/
def AcceptsDay (s : Schedule) (date : Date) : Prop :=
  s.day.Accepts (s.field .dayOfMonth) (s.field .dayOfWeek) date

/-- The month and the year of a date are allowed. -/
def AllowsMonth (s : Schedule) (date : Date) : Prop :=
  date.month ∈ (s.field .month).values ∧ ∃ year ∈ (s.field .year).values, (year : Int) = date.year

/-- **The schedule allows a reading**: its time of day, its month and its year
are in the sets of their fields, and the day rule accepts its date. -/
def Allows (s : Schedule) (r : Reading) : Prop :=
  s.AllowsTime r ∧ s.AcceptsDay r.date ∧ s.AllowsMonth r.date

instance (s : Schedule) (r : Reading) : Decidable (s.AllowsTime r) :=
  inferInstanceAs (Decidable (_ ∧ _ ∧ _))

instance (s : Schedule) (date : Date) : Decidable (s.AcceptsDay date) :=
  inferInstanceAs (Decidable (DayRule.Accepts _ _ _ _))

instance (s : Schedule) (date : Date) : Decidable (s.AllowsMonth date) :=
  inferInstanceAs (Decidable (_ ∧ ∃ _ ∈ _, _))

instance (s : Schedule) (r : Reading) : Decidable (s.Allows r) :=
  inferInstanceAs (Decidable (_ ∧ _ ∧ _))

/-- **What reading an expression establishes**: all values are in their fields,
no field that is not about days is empty, and the day rule fits the day fields. -/
structure WellFormed (yearLimit : Nat) (s : Schedule) : Prop where
  bounds : ∀ field, ∀ value ∈ (s.field field).values,
    field.least ≤ value ∧ value ≤ field.greatest yearLimit
  nonempty : ∀ field : Field, field.isDay = false → (s.field field).values ≠ []
  day : s.day.Fits (s.field .dayOfMonth) (s.field .dayOfWeek)

end Schedule

/-! ## Day rules as arithmetic -/

namespace DayRule

variable {dayOfMonth dayOfWeek : ValueSet} {date : Date}

theorem accepts_lastDay_iff (hd : date.Valid) {offset : Nat} :
    (lastDay offset false).Accepts dayOfMonth dayOfWeek date ↔
      date.day + offset = date.monthLength := by
  have := hd.2.2.2
  simp only [Accepts, Date.length_laterDates hd, Date.monthLength]
  omega

/-- The nearest weekday to a day of the month, if the month has that day. -/
theorem exists_nearest_iff (hd : date.Valid) {day : Nat} :
    (∃ target ∈ date.monthDates, target.day = day ∧ date.IsNearestWeekdayTo target) ↔
      (1 ≤ day ∧ day ≤ date.monthLength) ∧
        date.day = (date.withDay day).nearestWeekday := by
  constructor
  · rintro ⟨target, ht, rfl, hnear⟩
    have hv := Date.valid_of_mem_monthDates hd ht
    obtain ⟨hy, hm, h1, hlen⟩ := Date.mem_monthDates.1 ht
    have htarget : target = date.withDay target.day := by rw [Date.withDay, ← hy, ← hm]
    rw [Date.isNearestWeekdayTo_iff hv] at hnear
    refine ⟨⟨h1, hlen⟩, ?_⟩
    rw [← htarget]
    exact congrArg Date.day hnear
  · rintro ⟨⟨h1, hlen⟩, hday⟩
    have hmem : date.withDay day ∈ date.monthDates :=
      Date.mem_monthDates.2 ⟨rfl, rfl, h1, hlen⟩
    refine ⟨_, hmem, rfl, ?_⟩
    rw [Date.isNearestWeekdayTo_iff (Date.valid_of_mem_monthDates hd hmem), ← hday]
    rfl

theorem accepts_nearestWeekday_iff (hd : date.Valid) {day : Nat} :
    (nearestWeekday day).Accepts dayOfMonth dayOfWeek date ↔
      (1 ≤ day ∧ day ≤ date.monthLength) ∧
        date.day = (date.withDay day).nearestWeekday :=
  exists_nearest_iff hd

/-- The weekday nearest to the day `offset` days before the last one is the one
nearest to the day with that number. -/
theorem accepts_lastDay_nearest_iff (hd : date.Valid) {offset : Nat} :
    (lastDay offset true).Accepts dayOfMonth dayOfWeek date ↔
      offset < date.monthLength ∧
        date.day = (date.withDay (date.monthLength - offset)).nearestWeekday := by
  have hiff : (lastDay offset true).Accepts dayOfMonth dayOfWeek date ↔
      ∃ target ∈ date.monthDates, target.day = date.monthLength - offset ∧
        offset < date.monthLength ∧ date.IsNearestWeekdayTo target := by
    refine exists_congr fun target => and_congr_right fun ht => ?_
    obtain ⟨hy, hm, h1, hlen⟩ := Date.mem_monthDates.1 ht
    have hsame : target.monthLength = date.monthLength := by
      simp only [Date.monthLength, hy, hm]
    rw [Date.length_laterDates (Date.valid_of_mem_monthDates hd ht), hsame, ← and_assoc]
    exact and_congr_left fun _ => by omega
  rw [hiff]
  constructor
  · rintro ⟨target, ht, hday, hlt, hnear⟩
    exact ⟨hlt, ((exists_nearest_iff hd).1 ⟨target, ht, hday, hnear⟩).2⟩
  · rintro ⟨hlt, hday⟩
    obtain ⟨target, ht, htday, hnear⟩ := (exists_nearest_iff hd).2
      ⟨⟨show 1 ≤ date.monthLength - offset by omega, by omega⟩, hday⟩
    exact ⟨target, ht, htday, hlt, hnear⟩

theorem accepts_lastWeekday_iff {weekday : Nat} :
    (lastWeekday weekday).Accepts dayOfMonth dayOfWeek date ↔
      date.weekday = weekday ∧ date.monthLength < date.day + 7 := by
  refine and_congr_right fun hw => ?_
  constructor
  · intro h
    refine Nat.lt_of_not_le fun hle => ?_
    have hmem : date.withDay (date.day + 7) ∈ date.monthDates :=
      Date.mem_monthDates.2 ⟨rfl, rfl, by simp, by rw [Date.day_withDay]; omega⟩
    refine h _ (Date.mem_laterDates.2 ⟨hmem, by simp⟩) ?_
    rw [Date.weekday_eq] at hw ⊢
    rw [Date.firstDay_withDay, Date.day_withDay]
    omega
  · intro h later hlater
    obtain ⟨hmem, hlt⟩ := Date.mem_laterDates.1 hlater
    obtain ⟨hy, hm, -, hlen⟩ := Date.mem_monthDates.1 hmem
    have hfirst : later.firstDay = date.firstDay := by rw [Date.firstDay, Date.firstDay, hy, hm]
    rw [Date.weekday_eq] at hw ⊢
    rw [hfirst]
    omega

theorem accepts_nthWeekday_iff (hd : date.Valid) {weekday nth : Nat} :
    (nthWeekday weekday nth).Accepts dayOfMonth dayOfWeek date ↔
      date.weekday = weekday ∧ (date.day - 1) / 7 + 1 = nth := by
  refine and_congr_right fun hw => ?_
  subst hw
  rw [Date.countP_earlierDates hd]

end DayRule

end CronSchedule
