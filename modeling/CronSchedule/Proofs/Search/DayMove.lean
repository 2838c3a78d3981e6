import CronSchedule.Proofs.Search.Moves

/-!
# The move of the day

Each day rule sends the cursor to the first accepted date of what is left of its
month, or to a date before which no date is accepted. The rules that take the
nearest weekday look at a date that may lie before the cursor's, and go by the
start of the search instead of the cursor; they are right because of what the
search has passed over, the hypothesis `MonthDone`.
-/

namespace CronSchedule

open Calendar

namespace Reading

/-- The second of a day at which a reading shows the same time of day. -/
def onDay (r : Reading) (day : Int) : Reading :=
  ofParts day r.hour r.minute r.second

theorem dayNumber_onDay (r : Reading) (day : Int) : (r.onDay day).dayNumber = day := by
  have := r.parts_spec
  simp only [onDay, dayNumber, ofParts]
  omega

theorem parts_onDay (r : Reading) (day : Int) :
    (r.onDay day).hour = r.hour ∧ (r.onDay day).minute = r.minute ∧
      (r.onDay day).second = r.second := by
  have h := (r.onDay day).parts_spec
  have hr := r.parts_spec
  rw [dayNumber_onDay] at h
  simp only [onDay, ofParts] at h ⊢
  omega

theorem onDay_lt_iff (r : Reading) (day : Int) : r.onDay day < r ↔ day < r.dayNumber := by
  have := r.parts_spec
  simp only [lt_def, onDay, ofParts]
  omega

/-- The readings from a cursor on, up to a day of its month, lie on the dates
between. -/
theorem date_between {cursor r : Reading} {bound : Nat} (hr : cursor ≤ r)
    (hlt : r < ofDate (cursor.date.withDay bound))
    (hbound : bound ≤ cursor.date.monthLength + 1) :
    ∃ day, cursor.date.day ≤ day ∧ day < bound ∧ r.date = cursor.date.withDay day := by
  rw [lt_ofDate_iff, Date.dayNumber_eq] at hlt
  have hc := Date.dayNumber_eq cursor.date
  rw [dayNumber_date] at hc
  have hle : cursor.dayNumber ≤ r.dayNumber := by
    simp only [le_def, dayNumber] at *
    omega
  rw [Date.firstDay_withDay, Date.day_withDay] at hlt
  refine ⟨cursor.date.day + (r.dayNumber - cursor.dayNumber).toNat, by omega, by omega, ?_⟩
  exact date_of_dayNumber_eq_add (by omega) (by omega)

/-- A month that follows another begins one day after the last date of that. -/
theorem ofDate_nextMonth {date : Date} (h : date.Valid) :
    ofDate ⟨date.year, date.month + 1, 1⟩ = ofDate (date.withDay (date.monthLength + 1)) := by
  have hnext := Date.dayNumber_nextMonth date.year h.1
  have hday : (date.withDay (date.monthLength + 1)).dayNumber =
      Date.dayNumber ⟨date.year, date.month + 1, 1⟩ := by
    rw [Date.dayNumber_eq, hnext, Date.firstDay_withDay, Date.day_withDay, Date.firstDay,
      Date.monthLength]
    omega
  rw [ofDate, ofDate, hday]

end Reading

namespace Schedule

variable {s : Schedule} {start cursor : Reading} {yearLimit : Nat}

/-- **The search is done with the month of the cursor up to the cursor**: no
reading from `start` on has both an allowed time and an accepted date there. -/
def MonthDone (s : Schedule) (start cursor : Reading) : Prop :=
  ∀ r, start ≤ r → r < cursor → cursor.monthStart ≤ r → ¬ (s.AllowsTime r ∧ s.AcceptsDay r.date)

/-- A move within the month, or to the day after it. -/
theorem goTo_leads {bound : Nat} (hlt : cursor.date.day < bound)
    (hbound : bound ≤ cursor.date.monthLength + 1)
    (hskip : ∀ day, cursor.date.day ≤ day → day < bound →
      ¬ s.AcceptsDay (cursor.date.withDay day)) :
    (Move.goTo (.ofDate (cursor.date.withDay bound))).Leads
      (fun r => s.AcceptsDay r.date) cursor := by
  refine ⟨?_, fun r hr hrt => ?_⟩
  · have hc := Date.dayNumber_eq cursor.date
    rw [Reading.dayNumber_date] at hc
    rw [Reading.lt_ofDate_iff, Date.dayNumber_eq, Date.firstDay_withDay, Date.day_withDay]
    omega
  · obtain ⟨day, hle, hday, hdate⟩ := Reading.date_between hr hrt hbound
    change ¬ s.AcceptsDay r.date
    rw [hdate]
    exact hskip day hle hday

theorem toDay_leads {day : Nat} (hle : cursor.date.day ≤ day)
    (hlen : day ≤ cursor.date.monthLength)
    (haccept : s.AcceptsDay (cursor.date.withDay day))
    (hskip : ∀ day', cursor.date.day ≤ day' → day' < day →
      ¬ s.AcceptsDay (cursor.date.withDay day')) :
    (toDay cursor.date day).Leads (fun r => s.AcceptsDay r.date) cursor := by
  unfold toDay
  split
  · rename_i heq
    rw [heq] at haccept
    exact haccept
  · exact goTo_leads (by omega) (by omega) hskip

theorem nextMonth_leads
    (hskip : ∀ day, cursor.date.day ≤ day → day ≤ cursor.date.monthLength →
      ¬ s.AcceptsDay (cursor.date.withDay day)) :
    (nextMonth cursor.date).Leads (fun r => s.AcceptsDay r.date) cursor := by
  have hlen := cursor.valid_date.2.2.2
  rw [nextMonth, Reading.ofDate_nextMonth cursor.valid_date]
  exact goTo_leads (Nat.lt_succ_of_le hlen) (Nat.le_refl _)
    fun day hle hlt => hskip day hle (by omega)

/-- **The move to the nearest weekday.** Where the rule accepts one day `nearest`
of the month and no other, the search either goes there or has done with it. -/
theorem toNearestWeekday_leads {day : Nat} (hstart : start ≤ cursor)
    (htime : s.AllowsTime cursor) (hdone : s.MonthDone start cursor)
    (h1 : 1 ≤ day) (hlen : day ≤ cursor.date.monthLength)
    (haccept : ∀ d, (cursor.date.withDay d).Valid → (s.AcceptsDay (cursor.date.withDay d) ↔
      d = (cursor.date.withDay day).nearestWeekday)) :
    (toNearestWeekday start cursor day).Leads (fun r => s.AcceptsDay r.date) cursor := by
  have hv := cursor.valid_date
  have hnear := Date.isNearestWeekdayTo_nearestWeekday (Date.valid_withDay hv h1 hlen)
  obtain ⟨-, -, hn1, hnlen⟩ := Date.mem_monthDates.1 hnear.1
  have hdef : toNearestWeekday start cursor day =
      if cursor.onDay
        (cursor.date.withDay (cursor.date.withDay day).nearestWeekday).dayNumber < start
      then nextMonth cursor.date
      else toDay cursor.date (cursor.date.withDay day).nearestWeekday := rfl
  rw [hdef]
  clear hdef
  generalize (cursor.date.withDay day).nearestWeekday = nearest at *
  change 1 ≤ nearest at hn1
  change nearest ≤ cursor.date.monthLength at hnlen
  have hday := Date.dayNumber_eq (cursor.date.withDay nearest)
  rw [Date.firstDay_withDay, Date.day_withDay] at hday
  have hcday := Date.dayNumber_eq cursor.date
  rw [Reading.dayNumber_date] at hcday
  generalize hnumber : (cursor.date.withDay nearest).dayNumber = number at *
  have hlt := Reading.onDay_lt_iff cursor number
  split
  · rename_i hbefore
    -- The nearest weekday comes before the start, so no later day of the month is it.
    refine nextMonth_leads fun d hd hdlen hacc => ?_
    rw [haccept d (Date.valid_withDay hv (Nat.le_trans hv.2.2.1 hd) hdlen)] at hacc
    simp only [Reading.le_def, Reading.lt_def] at *
    omega
  · rename_i hafter
    have hvn := Date.valid_withDay hv hn1 hnlen
    refine toDay_leads ?_ hnlen ((haccept nearest hvn).2 rfl) fun d hd hdn hacc => ?_
    · -- If the nearest weekday lay before the cursor, the search would have passed over it,
      -- at the cursor's time of day.
      refine Nat.le_of_not_lt fun hback => ?_
      have hdate : (cursor.onDay number).date = cursor.date.withDay nearest := by
        rw [Reading.date, Reading.dayNumber_onDay, ← hnumber,
          Date.ofDayNumber_dayNumber hvn]
      have hmonth : cursor.monthStart ≤ cursor.onDay number := by
        have := (cursor.onDay number).monthStart_le
        rwa [Reading.monthStart, hdate] at this
      refine hdone (cursor.onDay number) ?_ (hlt.2 (by omega)) hmonth ⟨?_, ?_⟩
      · simp only [Reading.le_def, Reading.lt_def] at *
        omega
      · obtain ⟨hh, hm, hs⟩ := cursor.parts_onDay number
        rwa [AllowsTime, hh, hm, hs]
      · rw [hdate]
        exact (haccept nearest hvn).2 rfl
    · rw [haccept d (Date.valid_withDay hv (Nat.le_trans hv.2.2.1 hd) (by omega))] at hacc
      omega

/-- The weekday that comes next in the week, among listed ones: no listed weekday
lies between. -/
theorem daysUntil_next {set : ValueSet} (hne : set.values ≠ [])
    (hbounds : ∀ x ∈ set.values, 1 ≤ x ∧ x ≤ 7) (today : Nat) {wanted : Nat} (h1 : 1 ≤ today)
    (h7 : today ≤ 7) (hw : (set.next? today).getD (leastOf set) = wanted) :
    wanted ∈ set.values ∧ ∀ x ∈ set.values, daysUntil today wanted ≤ daysUntil today x := by
  cases hv : set.next? today with
  | some value =>
    obtain rfl : value = wanted := by simpa [hv] using hw
    obtain ⟨hmem, hle, hleast⟩ := ValueSet.next?_eq_some hv
    refine ⟨hmem, fun x hx => ?_⟩
    have := hbounds _ hmem
    have := hbounds x hx
    have := hleast x hx
    simp only [daysUntil]
    omega
  | none =>
    obtain rfl : leastOf set = wanted := by simpa [hv] using hw
    obtain ⟨hmem, hleast⟩ := leastOf_spec hne
    refine ⟨hmem, fun x hx => ?_⟩
    have := hbounds _ hmem
    have := hbounds x hx
    have := hleast x hx
    have := ValueSet.next?_eq_none hv x hx
    have := ValueSet.next?_eq_none hv _ hmem
    simp only [daysUntil]
    omega

/-! ## One rule at a time -/

/-- The dates of the cursor's month from the cursor on. -/
theorem valid_from {day : Nat} (hle : cursor.date.day ≤ day)
    (hlen : day ≤ cursor.date.monthLength) : (cursor.date.withDay day).Valid :=
  Date.valid_withDay cursor.valid_date (Nat.le_trans cursor.valid_date.2.2.1 hle) hlen

/-- **The move to the least listed day of the next month**, once the rest of this one
has no listed day. Where the next month is too short for it, the day runs over
into the month after that. -/
theorem nextListedDay_leads (hs : s.WellFormed yearLimit)
    (hne : (s.field .dayOfMonth).values ≠ [])
    (haccept : ∀ date, s.AcceptsDay date ↔ date.day ∈ (s.field .dayOfMonth).values)
    (hover : ∀ day ∈ (s.field .dayOfMonth).values, cursor.date.day ≤ day →
      cursor.date.monthLength < day) :
    (Move.goTo (.ofDate ⟨cursor.date.year, cursor.date.month + 1,
      leastOf (s.field .dayOfMonth)⟩)).Leads (fun r => s.AcceptsDay r.date) cursor := by
  obtain ⟨hmem, hleast⟩ := leastOf_spec hne
  have hv := cursor.valid_date
  have hbound := hs.bounds _ _ hmem
  simp only [Field.least] at hbound
  generalize leastOf (s.field .dayOfMonth) = least at *
  have htarget := Date.dayNumber_eq ⟨cursor.date.year, cursor.date.month + 1, least⟩
  have hfirst : Date.firstDay ⟨cursor.date.year, cursor.date.month + 1, least⟩ =
      cursor.date.firstDay + cursor.date.monthLength := Date.dayNumber_nextMonth _ hv.1
  have hcday := Date.dayNumber_eq cursor.date
  rw [Reading.dayNumber_date] at hcday
  refine ⟨?_, fun r hr hrt hacc => ?_⟩
  · have := hv.2.2.2
    rw [Reading.lt_ofDate_iff, htarget, hfirst]
    simp only [Date.monthLength] at *
    omega
  · replace hacc := (haccept _).1 hacc
    by_cases hmonth : r < .ofDate ⟨cursor.date.year, cursor.date.month + 1, 1⟩
    · rw [Reading.ofDate_nextMonth hv] at hmonth
      obtain ⟨day, hle, hlt, hdate⟩ := Reading.date_between hr hmonth (Nat.le_refl _)
      rw [hdate, Date.day_withDay] at hacc
      have := hover day hacc hle
      omega
    · -- The month of `r` is the next one or a later one, and its day is listed.
      have hstart := Reading.monthStart_le_monthStart (Reading.not_lt.1 hmonth)
      rw [Reading.monthStart_ofDate (by omega) (by have := hv.2.1; omega), Reading.monthStart,
        ← Reading.not_lt, Reading.lt_ofDate_iff, Reading.dayNumber_ofDate] at hstart
      rw [Reading.lt_ofDate_iff, htarget, ← Reading.dayNumber_date, Date.dayNumber_eq] at hrt
      have := hleast _ hacc
      simp only [Date.firstDay] at *
      omega

theorem moveDay_leads_monthDays (hs : s.WellFormed yearLimit) (hrule : s.day = .monthDays) :
    (s.moveDay start cursor).Leads (fun r => s.AcceptsDay r.date) cursor := by
  have hfits := hs.day
  rw [hrule] at hfits
  have haccept : ∀ date, s.AcceptsDay date ↔ date.day ∈ (s.field .dayOfMonth).values := by
    intro date
    rw [AcceptsDay, hrule]
    rfl
  unfold moveDay
  rw [hrule]
  simp only
  split
  · rename_i day hday
    obtain ⟨hin, hle, hfirst⟩ := ValueSet.next?_eq_some hday
    split
    · rename_i hlen
      refine toDay_leads hle hlen ((haccept _).2 hin) fun d hd hlt hacc => ?_
      have := hfirst d ((haccept _).1 hacc) hd
      omega
    · rename_i hlen
      refine nextListedDay_leads hs hfits.1 haccept fun x hx hxd => ?_
      exact Nat.lt_of_lt_of_le (Nat.lt_of_not_le hlen) (hfirst x hx hxd)
  · rename_i hnone
    refine nextListedDay_leads hs hfits.1 haccept fun x hx hxd => ?_
    exact absurd hxd (Nat.not_le_of_lt (ValueSet.next?_eq_none hnone x hx))

theorem moveDay_leads_lastDay {offset : Nat} (hrule : s.day = .lastDay offset false) :
    (s.moveDay start cursor).Leads (fun r => s.AcceptsDay r.date) cursor := by
  have haccept : ∀ day, (cursor.date.withDay day).Valid →
      (s.AcceptsDay (cursor.date.withDay day) ↔ day + offset = cursor.date.monthLength) := by
    intro day hv
    rw [AcceptsDay, hrule, DayRule.accepts_lastDay_iff hv]
    rfl
  unfold moveDay
  rw [hrule]
  simp only
  split
  · refine nextMonth_leads fun d hd hlen hacc => ?_
    rw [haccept d (valid_from hd hlen)] at hacc
    omega
  · refine toDay_leads (by omega) (by omega)
      ((haccept _ (valid_from (by omega) (by omega))).2 (by omega)) fun d hd hlt hacc => ?_
    rw [haccept d (valid_from hd (by omega))] at hacc
    omega

theorem moveDay_leads_lastDay_nearest {offset : Nat} (hrule : s.day = .lastDay offset true)
    (hstart : start ≤ cursor) (htime : s.AllowsTime cursor) (hdone : s.MonthDone start cursor) :
    (s.moveDay start cursor).Leads (fun r => s.AcceptsDay r.date) cursor := by
  have haccept : ∀ day, (cursor.date.withDay day).Valid →
      (s.AcceptsDay (cursor.date.withDay day) ↔ offset < cursor.date.monthLength ∧
        day = (cursor.date.withDay (cursor.date.monthLength - offset)).nearestWeekday) := by
    intro day hv
    rw [AcceptsDay, hrule, DayRule.accepts_lastDay_nearest_iff hv]
    rfl
  unfold moveDay
  rw [hrule]
  simp only
  split
  · refine nextMonth_leads fun d hd hlen hacc => ?_
    rw [haccept d (valid_from hd hlen)] at hacc
    omega
  · refine toNearestWeekday_leads hstart htime hdone (by omega) (by omega) fun d hv => ?_
    rw [haccept d hv]
    exact and_iff_right (by omega)

theorem moveDay_leads_nearestWeekday {day : Nat} (hs : s.WellFormed yearLimit)
    (hrule : s.day = .nearestWeekday day)
    (hstart : start ≤ cursor) (htime : s.AllowsTime cursor) (hdone : s.MonthDone start cursor) :
    (s.moveDay start cursor).Leads (fun r => s.AcceptsDay r.date) cursor := by
  have hfits := hs.day
  rw [hrule] at hfits
  have hvalues : (s.field .dayOfMonth).values = [day] := hfits
  have hbound := hs.bounds .dayOfMonth day
    (by rw [hvalues]; exact List.mem_singleton_self day)
  have haccept : ∀ d, (cursor.date.withDay d).Valid →
      (s.AcceptsDay (cursor.date.withDay d) ↔ (1 ≤ day ∧ day ≤ cursor.date.monthLength) ∧
        d = (cursor.date.withDay day).nearestWeekday) := by
    intro d hv
    rw [AcceptsDay, hrule, DayRule.accepts_nearestWeekday_iff hv]
    rfl
  unfold moveDay
  rw [hrule]
  simp only
  split
  · refine nextMonth_leads fun d hd hlen hacc => ?_
    rw [haccept d (valid_from hd hlen)] at hacc
    omega
  · refine toNearestWeekday_leads hstart htime hdone hbound.1 (by omega) fun d hv => ?_
    rw [haccept d hv]
    exact and_iff_right ⟨hbound.1, by omega⟩

theorem moveDay_leads_weekDays (hs : s.WellFormed yearLimit) (hrule : s.day = .weekDays) :
    (s.moveDay start cursor).Leads (fun r => s.AcceptsDay r.date) cursor := by
  have hfits := hs.day
  rw [hrule] at hfits
  have hweekday := Date.weekday_eq cursor.date
  have haccept : ∀ day, s.AcceptsDay (cursor.date.withDay day) ↔
      (cursor.date.withDay day).weekday ∈ (s.field .dayOfWeek).values := by
    intro day
    rw [AcceptsDay, hrule]
    rfl
  obtain ⟨hmem, hfirst⟩ := daysUntil_next hfits.1 (hs.bounds .dayOfWeek)
    cursor.date.weekday (by omega) (by omega) rfl
  unfold moveDay
  rw [hrule]
  simp only
  generalize ((s.field .dayOfWeek).next? cursor.date.weekday).getD
    (leastOf (s.field .dayOfWeek)) = wanted at *
  have hwanted := hs.bounds .dayOfWeek _ hmem
  simp only [Field.least, Field.greatest] at hwanted
  -- The days until the wanted weekday have weekdays that come sooner in the week.
  have hbefore : ∀ day, cursor.date.day ≤ day →
      day < cursor.date.day + daysUntil cursor.date.weekday wanted →
      ¬ s.AcceptsDay (cursor.date.withDay day) := by
    intro day hle hlt hacc
    have := hfirst _ ((haccept day).1 hacc)
    simp only [Date.weekday_eq, Date.firstDay_withDay, Date.day_withDay, daysUntil] at this hlt
    omega
  split
  · exact nextMonth_leads fun d hd hlen => hbefore d hd (by omega)
  · refine toDay_leads (by omega) (by omega) ((haccept _).2 ?_) hbefore
    have hday : (cursor.date.withDay
        (cursor.date.day + daysUntil cursor.date.weekday wanted)).weekday = wanted := by
      simp only [Date.weekday_eq, Date.firstDay_withDay, Date.day_withDay, daysUntil]
      omega
    rw [hday]
    exact hmem

theorem moveDay_leads_lastWeekday {wanted : Nat} (hs : s.WellFormed yearLimit)
    (hrule : s.day = .lastWeekday wanted) :
    (s.moveDay start cursor).Leads (fun r => s.AcceptsDay r.date) cursor := by
  have hfits := hs.day
  rw [hrule] at hfits
  have hvalues : (s.field .dayOfWeek).values = [wanted] := hfits
  have hwanted := hs.bounds .dayOfWeek wanted
    (by rw [hvalues]; exact List.mem_singleton_self wanted)
  simp only [Field.least, Field.greatest] at hwanted
  have hweekday := Date.weekday_eq cursor.date
  have haccept : ∀ day, s.AcceptsDay (cursor.date.withDay day) ↔
      ((cursor.date.firstDay + day + 3) % 7).toNat + 1 = wanted ∧
        cursor.date.monthLength < day + 7 := by
    intro day
    rw [AcceptsDay, hrule, DayRule.accepts_lastWeekday_iff, Date.weekday_eq]
    rfl
  have hdays : daysUntil cursor.date.weekday wanted = (wanted + 7 - cursor.date.weekday) % 7 := rfl
  unfold moveDay
  rw [hrule]
  simp only
  split
  · refine nextMonth_leads fun d hd hlen hacc => ?_
    rw [haccept] at hacc
    omega
  · refine toDay_leads (by omega) (by omega) ((haccept _).2 (by omega)) fun d hd hlt hacc => ?_
    rw [haccept] at hacc
    omega

theorem moveDay_leads_nthWeekday {wanted nth : Nat} (hs : s.WellFormed yearLimit)
    (hrule : s.day = .nthWeekday wanted nth) :
    (s.moveDay start cursor).Leads (fun r => s.AcceptsDay r.date) cursor := by
  have hfits := hs.day
  rw [hrule] at hfits
  have hvalues : (s.field .dayOfWeek).values = [wanted] := hfits.1
  have hwanted := hs.bounds .dayOfWeek wanted
    (by rw [hvalues]; exact List.mem_singleton_self wanted)
  simp only [Field.least, Field.greatest] at hwanted
  have hweekday := Date.weekday_eq cursor.date
  have h1 := cursor.valid_date.2.2.1
  have haccept : ∀ day, (cursor.date.withDay day).Valid →
      (s.AcceptsDay (cursor.date.withDay day) ↔
        ((cursor.date.firstDay + day + 3) % 7).toNat + 1 = wanted ∧ (day - 1) / 7 + 1 = nth) := by
    intro day hv
    rw [AcceptsDay, hrule, DayRule.accepts_nthWeekday_iff hv, Date.weekday_eq]
    rfl
  have hdays : daysUntil cursor.date.weekday wanted = (wanted + 7 - cursor.date.weekday) % 7 := rfl
  unfold moveDay
  rw [hrule]
  simp only
  split
  · refine nextMonth_leads fun d hd hlen hacc => ?_
    rw [haccept d (valid_from hd hlen)] at hacc
    omega
  · split
    · refine nextMonth_leads fun d hd hlen hacc => ?_
      rw [haccept d (valid_from hd hlen)] at hacc
      omega
    · refine toDay_leads (by omega) (by omega)
        ((haccept _ (valid_from (by omega) (by omega))).2 (by omega)) fun d hd hlt hacc => ?_
      rw [haccept d (valid_from hd (by omega))] at hacc
      omega

/-- **The move of the day is right**, for a cursor at an allowed time whose month
the search is done with up to the cursor. -/
theorem moveDay_leads (hs : s.WellFormed yearLimit) (hstart : start ≤ cursor)
    (htime : s.AllowsTime cursor) (hdone : s.MonthDone start cursor) :
    (s.moveDay start cursor).Leads (fun r => s.AcceptsDay r.date) cursor := by
  cases hrule : s.day with
  | any =>
    have hstay : s.moveDay start cursor = .stay := by rw [moveDay, hrule]
    rw [hstay]
    change s.AcceptsDay cursor.date
    rw [AcceptsDay, hrule]
    trivial
  | monthDays => exact moveDay_leads_monthDays hs hrule
  | lastDay offset nearest =>
    cases nearest with
    | false => exact moveDay_leads_lastDay hrule
    | true => exact moveDay_leads_lastDay_nearest hrule hstart htime hdone
  | nearestWeekday day => exact moveDay_leads_nearestWeekday hs hrule hstart htime hdone
  | weekDays => exact moveDay_leads_weekDays hs hrule
  | lastWeekday wanted => exact moveDay_leads_lastWeekday hs hrule
  | nthWeekday wanted nth => exact moveDay_leads_nthWeekday hs hrule

end Schedule

end CronSchedule
