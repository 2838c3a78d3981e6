import CronSchedule.Schedule.Basic

/-!
# The next reading of the wall clock

The search runs on wall-clock readings and knows nothing of zones. It settles
the fields of a cursor from the second to the year. A field that does not allow
what the cursor shows moves it to the next reading that the field does allow,
with all lower fields at the start, and the search begins again from there; only
a cursor that every field allows is the answer. `nextReading` returns a later
reading within the years searched (`nextReading_bounds`).
-/

namespace CronSchedule

namespace Schedule

/-- Where a field wants the cursor. -/
inductive Move
  /-- Where it is. -/
  | stay
  /-- At a later reading. -/
  | goTo (reading : Reading)
  /-- Nowhere: the field allows nothing from here on. -/
  | never
deriving DecidableEq, Repr

namespace Move

/-- The wish of the first field that has one. -/
def orElse (first : Move) (second : Unit → Move) : Move :=
  match first with
  | stay => second ()
  | other => other

instance : OrElse Move := ⟨orElse⟩

end Move

/-- The first second after the years that are searched. -/
def horizon : Reading :=
  .ofDate ⟨Field.lastYear + 1, 1, 1⟩

/-- The least value of a set; sets that are asked for it are not empty. -/
def leastOf (set : ValueSet) : Nat :=
  set.first?.getD 0

/-- The first reading from the cursor on with an allowed second. -/
def settleSecond (s : Schedule) (cursor : Reading) : Reading :=
  match (s.field .second).next? cursor.second with
  | some second => .ofParts cursor.dayNumber cursor.hour cursor.minute second
  | none =>
    .ofParts cursor.dayNumber cursor.hour (cursor.minute + 1) (leastOf (s.field .second))

/-- The move to an allowed minute. -/
def moveMinute (s : Schedule) (cursor : Reading) : Move :=
  match (s.field .minute).next? cursor.minute with
  | some minute =>
    if minute = cursor.minute then .stay
    else .goTo (.ofParts cursor.dayNumber cursor.hour minute 0)
  | none => .goTo (.ofParts cursor.dayNumber (cursor.hour + 1) (leastOf (s.field .minute)) 0)

/-- The move to an allowed hour. -/
def moveHour (s : Schedule) (cursor : Reading) : Move :=
  match (s.field .hour).next? cursor.hour with
  | some hour =>
    if hour = cursor.hour then .stay
    else .goTo (.ofParts cursor.dayNumber hour 0 0)
  | none => .goTo (.ofParts (cursor.dayNumber + 1) (leastOf (s.field .hour)) 0 0)

/-- The move to the first day of the next month. -/
def nextMonth (date : Date) : Move :=
  .goTo (.ofDate ⟨date.year, date.month + 1, 1⟩)

/-- The move to another day of the month of a date. -/
def toDay (date : Date) (day : Nat) : Move :=
  if day = date.day then .stay else .goTo (.ofDate { date with day := day })

/-- The move to the weekday nearest to a day of the month, or to the next month
where that weekday has passed before the search began, at `start`. -/
def toNearestWeekday (start cursor : Reading) (day : Nat) : Move :=
  let date := cursor.date
  let nearest := Date.nearestWeekday { date with day := day }
  let candidate : Reading :=
    .ofParts (Date.dayNumber { date with day := nearest }) cursor.hour cursor.minute cursor.second
  if candidate < start then nextMonth date else toDay date nearest

/-- The move to a day that the schedule allows, for a search begun at `start`. -/
def moveDay (s : Schedule) (start cursor : Reading) : Move :=
  let date := cursor.date
  let lastDay := date.monthLength
  let weekday := date.weekday
  match s.day with
  | .any => .stay
  | .monthDays =>
    match (s.field .dayOfMonth).next? date.day with
    | some day =>
      if day ≤ lastDay then toDay date day
      else .goTo (.ofDate ⟨date.year, date.month + 1, leastOf (s.field .dayOfMonth)⟩)
    | none => .goTo (.ofDate ⟨date.year, date.month + 1, leastOf (s.field .dayOfMonth)⟩)
  | .lastDay offset false =>
    if lastDay < date.day + offset then nextMonth date else toDay date (lastDay - offset)
  | .lastDay offset true =>
    if lastDay ≤ offset then nextMonth date
    else toNearestWeekday start cursor (lastDay - offset)
  | .nearestWeekday day =>
    if lastDay < day then nextMonth date else toNearestWeekday start cursor day
  | .weekDays =>
    let wanted := ((s.field .dayOfWeek).next? weekday).getD (leastOf (s.field .dayOfWeek))
    let day := date.day + Calendar.daysUntil weekday wanted
    if lastDay < day then nextMonth date else toDay date day
  | .lastWeekday wanted =>
    let day := date.day + Calendar.daysUntil weekday wanted
    if lastDay < day then nextMonth date else toDay date (day + (lastDay - day) / 7 * 7)
  | .nthWeekday wanted nth =>
    let day := date.day + Calendar.daysUntil weekday wanted
    let week := (day + 6) / 7
    if nth < week then nextMonth date
    else if lastDay < day + (nth - week) * 7 then nextMonth date
    else toDay date (day + (nth - week) * 7)

/-- The move to an allowed month. -/
def moveMonth (s : Schedule) (cursor : Reading) : Move :=
  let date := cursor.date
  match (s.field .month).next? date.month with
  | some month =>
    if month = date.month then .stay else .goTo (.ofDate ⟨date.year, month, 1⟩)
  | none => .goTo (.ofDate ⟨date.year + 1, leastOf (s.field .month), 1⟩)

/-- The move to an allowed year. -/
def moveYear (s : Schedule) (cursor : Reading) : Move :=
  match (s.field .year).next? cursor.date.year.toNat with
  | some year =>
    if (year : Int) = cursor.date.year then .stay else .goTo (.ofDate ⟨year, 1, 1⟩)
  | none => .never

/-- The wish of the lowest field that does not allow the cursor, whose second is
settled. -/
def move (s : Schedule) (start cursor : Reading) : Move :=
  s.moveMinute cursor <|> s.moveHour cursor <|> s.moveDay start cursor <|>
    s.moveMonth cursor <|> s.moveYear cursor

/-- The first allowed reading from the cursor on. A move that would not lead
forward ends the search, as the end of the years does. -/
def searchFrom (s : Schedule) (start cursor : Reading) : Option Reading :=
  if cursor < horizon then
    let settled := s.settleSecond cursor
    match s.move start settled with
    | .stay => if settled < horizon then some settled else none
    | .goTo later => if cursor < later then searchFrom s start later else none
    | .never => none
  else none
termination_by (horizon.seconds - cursor.seconds).toNat
decreasing_by
  simp only [Reading.lt_def] at *
  omega

/-- The first reading after `after` that the schedule allows. -/
def nextReading (s : Schedule) (after : Reading) : Option Reading :=
  s.searchFrom after.next after.next

theorem le_of_next? {set : ValueSet} {value next : Nat} (h : set.next? value = some next) :
    value ≤ next := by
  simpa using List.find?_some h

theorem le_settleSecond (s : Schedule) (cursor : Reading) : cursor ≤ s.settleSecond cursor := by
  have := cursor.seconds_eq
  have := cursor.second_lt
  rw [Reading.le_def, settleSecond]
  split
  · rename_i second hs
    have := le_of_next? hs
    simp only [Reading.ofParts]
    omega
  · simp only [Reading.ofParts]
    omega

theorem searchFrom_bounds {s : Schedule} {start cursor r : Reading}
    (h : s.searchFrom start cursor = some r) : cursor ≤ r ∧ r < horizon := by
  fun_induction searchFrom s start cursor with
  | case1 cursor _ settled _ hlt =>
    obtain rfl : settled = r := by simpa using h
    exact ⟨le_settleSecond s cursor, hlt⟩
  | case3 cursor _ settled later _ hlt ih =>
    obtain ⟨h₁, h₂⟩ := ih h
    refine ⟨?_, h₂⟩
    simp only [Reading.le_def, Reading.lt_def] at *
    omega
  | _ => simp at h

/-- The next reading is later, and in a year that is searched. -/
theorem nextReading_bounds {s : Schedule} {after r : Reading}
    (h : s.nextReading after = some r) : after < r ∧ r < horizon := by
  obtain ⟨h₁, h₂⟩ := searchFrom_bounds h
  refine ⟨?_, h₂⟩
  simp only [Reading.le_def, Reading.lt_def, Reading.next] at *
  omega

end Schedule

end CronSchedule
