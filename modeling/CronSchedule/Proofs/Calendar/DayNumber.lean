import CronSchedule.Calendar.Reading

/-!
# Days and dates

Every day number has a date, every date that the calendar has is the date of its
own day number (`Date.dayNumber_ofDayNumber`, `Date.ofDayNumber_dayNumber`), and
days come in the order of their years and months. `Date.dayNumber_lt_month_iff`
is the one fact about that order which searches need: a day comes before a month
begins exactly if its date lies in an earlier month.
-/

namespace CronSchedule

namespace Calendar

/-- Number of days in a year. -/
def yearLength (year : Int) : Nat :=
  if isLeapYear year then 366 else 365

theorem le_monthLength (year : Int) (month : Nat) : 28 ≤ monthLength year month := by
  unfold monthLength
  split <;> (try split) <;> omega

theorem monthLength_le (year : Int) (month : Nat) : monthLength year month ≤ 31 := by
  unfold monthLength
  split <;> (try split) <;> omega

theorem daysBeforeMonth_succ (year : Int) {month : Nat} (h : 1 ≤ month) :
    daysBeforeMonth year (month + 1) = daysBeforeMonth year month + monthLength year month := by
  obtain ⟨k, rfl⟩ : ∃ k, month = k + 1 := ⟨month - 1, by omega⟩
  rfl

theorem daysBeforeMonth_le (year : Int) {a b : Nat} (ha : 1 ≤ a) (hab : a ≤ b) :
    daysBeforeMonth year a ≤ daysBeforeMonth year b := by
  induction b with
  | zero => omega
  | succ b ih =>
    rcases Nat.lt_or_ge b a with h | h
    · obtain rfl : a = b + 1 := by omega
      exact Nat.le_refl _
    · rw [daysBeforeMonth_succ year (by omega)]
      have := ih h
      omega

/-- The months of a year make up the year. -/
theorem daysBeforeMonth_thirteen (year : Int) : daysBeforeMonth year 13 = yearLength year := by
  simp only [daysBeforeMonth, monthLength, yearLength]
  split <;> rfl

theorem daysBeforeYear_succ (year : Int) :
    daysBeforeYear (year + 1) = daysBeforeYear year + yearLength year := by
  have h : isLeapYear year = true ↔ year % 4 = 0 ∧ year % 100 ≠ 0 ∨ year % 400 = 0 := by
    simp [isLeapYear]
  simp only [daysBeforeYear, yearLength, h]
  split <;> omega

theorem daysBeforeYear_le {a b : Int} (hab : a ≤ b) : daysBeforeYear a ≤ daysBeforeYear b := by
  obtain ⟨n, rfl⟩ := Int.le.dest hab
  clear hab
  induction n with
  | zero => simp
  | succ n ih =>
    have := daysBeforeYear_succ (a + n)
    rw [show a + ((n + 1 : Nat) : Int) = a + n + 1 by omega]
    omega

/-! ## The year of a day

The guess that `yearOfDay` starts from is the year of a calendar whose years all
have the mean length; the year itself is never two away from it. -/

theorem daysBeforeYear_le_of_guess (year day : Int) (h : 146097 * (year - 1969) ≤ day * 400) :
    daysBeforeYear year ≤ day := by
  simp only [daysBeforeYear]
  omega

theorem lt_daysBeforeYear_of_guess (year day : Int) (h : day * 400 < 146097 * (year - 1971)) :
    day < daysBeforeYear year := by
  simp only [daysBeforeYear]
  omega

/-- **The year of a day is the one that the day lies in.** -/
theorem yearOfDay_bounds (day : Int) :
    daysBeforeYear (yearOfDay day) ≤ day ∧ day < daysBeforeYear (yearOfDay day + 1) := by
  -- The year before the guess has begun by that day, and the second one after it has not.
  have hlow := daysBeforeYear_le_of_guess (1970 + day * 400 / 146097 - 1) day (by omega)
  have hhigh := lt_daysBeforeYear_of_guess (1970 + day * 400 / 146097 + 1 + 1) day (by omega)
  unfold yearOfDay
  simp only []
  split
  · rw [Int.sub_add_cancel]
    exact ⟨hlow, by assumption⟩
  · split
    · exact ⟨by assumption, hhigh⟩
    · omega

/-- The month and the day of the month count the days from the first of the
listed months on. -/
theorem monthAndDay_spec (year : Int) (count : Nat) :
    ∀ first rest : Nat, 1 ≤ first →
      daysBeforeMonth year first + rest < daysBeforeMonth year (first + count) →
      ∃ month day, monthAndDay year (List.range' first count) rest = (month, day) ∧
        first ≤ month ∧ month < first + count ∧ 1 ≤ day ∧ day ≤ monthLength year month ∧
        daysBeforeMonth year month + day = daysBeforeMonth year first + rest + 1 := by
  induction count with
  | zero =>
    intro first rest _ h
    rw [Nat.add_zero] at h
    omega
  | succ count ih =>
    intro first rest h1 h
    rw [List.range'_succ, monthAndDay]
    have hsucc := daysBeforeMonth_succ year h1
    by_cases hr : rest < monthLength year first
    · rw [if_pos hr]
      exact ⟨first, rest + 1, rfl, by omega, by omega, by omega, by omega, by omega⟩
    · rw [if_neg hr]
      obtain ⟨month, day, heq, hm⟩ := ih (first + 1) (rest - monthLength year first) (by omega)
        (by rw [show first + 1 + count = first + (count + 1) by omega]; omega)
      exact ⟨month, day, heq, by omega⟩

end Calendar

open Calendar

namespace Date

/-- Another day of the same month. -/
def withDay (date : Date) (day : Nat) : Date :=
  { date with day := day }

@[simp] theorem year_withDay (date : Date) (day : Nat) : (date.withDay day).year = date.year := rfl

@[simp] theorem month_withDay (date : Date) (day : Nat) :
    (date.withDay day).month = date.month := rfl

@[simp] theorem day_withDay (date : Date) (day : Nat) : (date.withDay day).day = day := rfl

@[simp] theorem monthLength_withDay (date : Date) (day : Nat) :
    (date.withDay day).monthLength = date.monthLength := rfl

theorem valid_withDay {date : Date} (h : date.Valid) {day : Nat} (h1 : 1 ≤ day)
    (hlen : day ≤ date.monthLength) : (date.withDay day).Valid :=
  ⟨h.1, h.2.1, h1, hlen⟩

/-- A day number and its date, in one statement. -/
theorem ofDayNumber_spec (day : Int) :
    (ofDayNumber day).Valid ∧ (ofDayNumber day).dayNumber = day := by
  obtain ⟨hlow, hhigh⟩ := yearOfDay_bounds day
  rw [daysBeforeYear_succ, ← daysBeforeMonth_thirteen] at hhigh
  obtain ⟨month, dayOfMonth, heq, hm⟩ := monthAndDay_spec (yearOfDay day) 12 1
    (day - daysBeforeYear (yearOfDay day)).toNat (by omega)
    (by simp only [daysBeforeMonth] at hhigh ⊢; omega)
  have hdate : ofDayNumber day = ⟨yearOfDay day, month, dayOfMonth⟩ := by
    simp only [ofDayNumber, heq]
  have hone : daysBeforeMonth (yearOfDay day) 1 = 0 := rfl
  rw [hdate]
  simp only [Valid, dayNumber]
  omega

/-- **The calendar has a date for every day.** -/
theorem valid_ofDayNumber (day : Int) : (ofDayNumber day).Valid :=
  (ofDayNumber_spec day).1

/-- **And that date has the number of the day.** -/
@[simp] theorem dayNumber_ofDayNumber (day : Int) : (ofDayNumber day).dayNumber = day :=
  (ofDayNumber_spec day).2

theorem valid_first {year : Int} {month : Nat} (h1 : 1 ≤ month) (h12 : month ≤ 12) :
    Valid ⟨year, month, 1⟩ :=
  ⟨h1, h12, Nat.le_refl 1, Nat.le_trans (show 1 ≤ 28 by omega) (le_monthLength year month)⟩

/-! ## The order of the months -/

/-- The number of the first day of the month that a date lies in. -/
def firstDay (date : Date) : Int :=
  dayNumber ⟨date.year, date.month, 1⟩

@[simp] theorem firstDay_withDay (date : Date) (day : Nat) :
    (date.withDay day).firstDay = date.firstDay := rfl

theorem dayNumber_eq (date : Date) : date.dayNumber = date.firstDay + date.day - 1 := by
  simp only [firstDay, dayNumber]
  omega

/-- A month begins where the one before it ends, the thirteenth of a year being
the first of the next. -/
theorem dayNumber_nextMonth (year : Int) {month : Nat} (h : 1 ≤ month) :
    dayNumber ⟨year, month + 1, 1⟩ =
      dayNumber ⟨year, month, 1⟩ + Calendar.monthLength year month := by
  have := daysBeforeMonth_succ year h
  simp only [dayNumber]
  omega

theorem dayNumber_thirteen (year : Int) :
    dayNumber ⟨year, 13, 1⟩ = dayNumber ⟨year + 1, 1, 1⟩ := by
  have h13 := daysBeforeMonth_thirteen year
  have hone : daysBeforeMonth (year + 1) 1 = 0 := rfl
  have := daysBeforeYear_succ year
  simp only [dayNumber]
  omega

/-- **A day comes before a month exactly if its own month does.** -/
theorem dayNumber_lt_month_iff {date : Date} (hd : date.Valid) (year : Int) {month : Nat}
    (h1 : 1 ≤ month) (h13 : month ≤ 13) :
    date.dayNumber < dayNumber ⟨year, month, 1⟩ ↔
      date.year < year ∨ (date.year = year ∧ date.month < month) := by
  obtain ⟨hm1, hm12, hd1, hdlen⟩ := hd
  have hnext := daysBeforeMonth_succ date.year hm1
  have hend := daysBeforeMonth_le date.year (show 1 ≤ date.month + 1 by omega)
    (show date.month + 1 ≤ 13 by omega)
  rw [daysBeforeMonth_thirteen] at hend
  have hyear := daysBeforeYear_succ date.year
  have hmonth := daysBeforeMonth_le year h1 h13
  rw [daysBeforeMonth_thirteen] at hmonth
  have hyear' := daysBeforeYear_succ year
  rcases Int.lt_trichotomy date.year year with hlt | heq | hgt
  · have := daysBeforeYear_le (show date.year + 1 ≤ year by omega)
    simp only [dayNumber]
    omega
  · subst heq
    rcases Nat.lt_or_ge date.month month with hlt | hge
    · have := daysBeforeMonth_le date.year (show 1 ≤ date.month + 1 by omega)
        (show date.month + 1 ≤ month by omega)
      refine ⟨fun _ => .inr ⟨rfl, hlt⟩, fun _ => ?_⟩
      simp only [dayNumber]
      omega
    · have := daysBeforeMonth_le date.year h1 hge
      simp only [dayNumber]
      omega
  · have := daysBeforeYear_le (show year + 1 ≤ date.year by omega)
    simp only [dayNumber]
    omega

/-- Dates of the calendar with one number are one date. -/
theorem eq_of_dayNumber_eq {a b : Date} (ha : a.Valid) (hb : b.Valid)
    (h : a.dayNumber = b.dayNumber) : a = b := by
  -- Neither day comes before the month of the other, so the months are one.
  have hab := dayNumber_lt_month_iff ha b.year hb.1 (by have := hb.2.1; omega)
  have hba := dayNumber_lt_month_iff hb a.year ha.1 (by have := ha.2.1; omega)
  have ea := dayNumber_eq a
  have eb := dayNumber_eq b
  simp only [firstDay] at ea eb
  have := ha.2.2.1
  have := hb.2.2.1
  have hyear : a.year = b.year := by omega
  have hmonth : a.month = b.month := by omega
  rw [hyear, hmonth] at ea
  obtain ⟨ya, ma, da⟩ := a
  obtain ⟨yb, mb, db⟩ := b
  simp only at hyear hmonth ea eb h
  subst hyear hmonth
  have : da = db := by omega
  rw [this]

/-- **A date of the calendar is the date of its own number.** -/
theorem ofDayNumber_dayNumber {date : Date} (h : date.Valid) :
    ofDayNumber date.dayNumber = date :=
  eq_of_dayNumber_eq (valid_ofDayNumber _) h (dayNumber_ofDayNumber _)

/-- Within a month, days and dates count alike. -/
theorem ofDayNumber_add {date : Date} (h : date.Valid) {k : Nat}
    (hk : date.day + k ≤ date.monthLength) :
    ofDayNumber (date.dayNumber + k) = date.withDay (date.day + k) := by
  have hv := valid_withDay h (Nat.le_trans h.2.2.1 (Nat.le_add_right _ k)) hk
  rw [← ofDayNumber_dayNumber hv]
  congr 1
  simp only [dayNumber, year_withDay, month_withDay, day_withDay]
  omega

end Date

namespace Reading

theorem not_lt {a b : Reading} : ¬ a < b ↔ b ≤ a :=
  Int.not_lt

theorem valid_date (r : Reading) : r.date.Valid :=
  Date.valid_ofDayNumber _

@[simp] theorem dayNumber_date (r : Reading) : r.date.dayNumber = r.dayNumber :=
  Date.dayNumber_ofDayNumber _

/-- The date of a reading on the day `k` days after that of `r`, in the same month. -/
theorem date_of_dayNumber_eq_add {r r' : Reading} {k : Nat} (h : r'.dayNumber = r.dayNumber + k)
    (hk : r.date.day + k ≤ r.date.monthLength) :
    r'.date = r.date.withDay (r.date.day + k) := by
  rw [← Date.ofDayNumber_add r.valid_date hk, dayNumber_date, ← h]
  rfl

/-- The parts of a reading, each below its own limit. -/
theorem parts_spec (r : Reading) :
    r.seconds = r.dayNumber * 86400 + r.hour * 3600 + r.minute * 60 + r.second ∧
      r.hour < 24 ∧ r.minute < 60 ∧ r.second < 60 :=
  ⟨r.seconds_eq, r.hour_lt, r.minute_lt, r.second_lt⟩

/-! ## The parts of a reading that was put together -/

theorem second_ofParts (day : Int) (hour minute : Nat) {second : Nat} (h : second < 60) :
    (ofParts day hour minute second).second = second := by
  simp only [Reading.second, secondOfDay, ofParts]
  omega

theorem dayNumber_ofDate (date : Date) : (ofDate date).dayNumber = date.dayNumber := by
  simp only [dayNumber, ofDate, ofParts]
  omega

theorem date_ofDate {date : Date} (h : date.Valid) : (ofDate date).date = date := by
  rw [Reading.date, dayNumber_ofDate, Date.ofDayNumber_dayNumber h]

/-- Readings before a date begins are those of earlier days. -/
theorem lt_ofDate_iff {r : Reading} {date : Date} :
    r < ofDate date ↔ r.dayNumber < date.dayNumber := by
  simp only [lt_def, dayNumber, ofDate, ofParts]
  omega

/-- **And readings before a month begins are those of earlier months.** -/
theorem lt_ofDate_month_iff (r : Reading) (year : Int) {month : Nat} (h1 : 1 ≤ month)
    (h13 : month ≤ 13) :
    r < ofDate ⟨year, month, 1⟩ ↔
      r.date.year < year ∨ (r.date.year = year ∧ r.date.month < month) := by
  rw [lt_ofDate_iff, ← dayNumber_date, Date.dayNumber_lt_month_iff r.valid_date year h1 h13]

/-- A later reading is in no earlier year. -/
theorem year_le_year {a b : Reading} (h : a ≤ b) : a.date.year ≤ b.date.year := by
  have hb := lt_ofDate_month_iff b a.date.year Nat.one_pos (by omega)
  have ha := lt_ofDate_month_iff a a.date.year Nat.one_pos (by omega)
  have := a.valid_date.1
  simp only [le_def, lt_def] at *
  omega

/-- The first second of the month of a reading. -/
def monthStart (r : Reading) : Reading :=
  ofDate ⟨r.date.year, r.date.month, 1⟩

theorem monthStart_le (r : Reading) : r.monthStart ≤ r := by
  have h := lt_ofDate_month_iff r r.date.year r.valid_date.1
    (by have := r.valid_date.2.1; omega)
  simp only [monthStart, le_def, lt_def] at *
  omega

/-- A month does not begin before that of an earlier reading. -/
theorem monthStart_le_monthStart {a b : Reading} (h : a ≤ b) : a.monthStart ≤ b.monthStart := by
  have ha := a.valid_date
  have hb := b.valid_date
  have hab := lt_ofDate_month_iff b a.date.year ha.1 (by have := ha.2.1; omega)
  have hle := a.monthStart_le
  have hstart := lt_ofDate_month_iff b.monthStart a.date.year ha.1 (by have := ha.2.1; omega)
  have hdate : b.monthStart.date = ⟨b.date.year, b.date.month, 1⟩ :=
    date_ofDate (Date.valid_first hb.1 hb.2.1)
  rw [hdate] at hstart
  simp only [monthStart, le_def, lt_def] at *
  omega

/-- A month that begins is its own beginning. -/
theorem monthStart_ofDate {year : Int} {month : Nat} (h1 : 1 ≤ month) (h13 : month ≤ 13) :
    (ofDate ⟨year, month, 1⟩).monthStart = ofDate ⟨year, month, 1⟩ := by
  rcases Nat.lt_or_ge month 13 with h | h
  · rw [monthStart, date_ofDate (Date.valid_first h1 (by omega))]
  · obtain rfl : month = 13 := by omega
    have hjanuary : ofDate ⟨year, 13, 1⟩ = ofDate ⟨year + 1, 1, 1⟩ := by
      rw [ofDate, ofDate, Date.dayNumber_thirteen]
    rw [hjanuary, monthStart, date_ofDate (Date.valid_first (by omega) (by omega))]

end Reading

end CronSchedule
