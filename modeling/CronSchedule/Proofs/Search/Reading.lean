import CronSchedule.Proofs.Schedule.Read
import CronSchedule.Proofs.Search.DayMove

/-!
# The next reading is the first allowed one

The search for the next reading keeps an invariant, `Reached`: what lies between
its start and its cursor is not allowed, and in the month of the cursor not even
the date and the time together are. One step keeps it (`Reached.settle`,
`Reached.move`) and leads forward; hence the search passes over nothing, and
what it finds is the first allowed reading (`searchFrom_isFirst`). `IsFirst` is
what the other searches are held to as well.
-/

namespace CronSchedule

/-! ## The first of a kind -/

/-- **The answer is the first of its kind**, in the order `R`, or there is none of
that kind. -/
def IsFirst {α : Type} (R : α → α → Prop) (P : α → Prop) : Option α → Prop
  | some a => P a ∧ ∀ b, P b → R a b
  | none => ∀ a, ¬ P a

namespace IsFirst

variable {α : Type} {R : α → α → Prop} {P Q : α → Prop} {answer : Option α}

theorem congr (h : IsFirst R P answer) (hiff : ∀ a, P a ↔ Q a) : IsFirst R Q answer := by
  rwa [show Q = P from funext fun a => propext (hiff a).symm]

/-- An answer is the first of what equals it. -/
theorem self (hrefl : ∀ a, R a a) (answer : Option α) :
    IsFirst R (fun a => answer = some a) answer := by
  cases answer with
  | none => exact nofun
  | some first =>
    refine ⟨rfl, ?_⟩
    rintro a ⟨⟩
    exact hrefl first

/-- No other answer is right. -/
theorem eq_some_iff (h : IsFirst R P answer) (hanti : ∀ a b, R a b → R b a → a = b) (a : α) :
    answer = some a ↔ P a ∧ ∀ b, P b → R a b := by
  constructor
  · rintro rfl
    exact h
  · rintro ⟨ha, hleast⟩
    cases answer with
    | none => exact absurd ha (h a)
    | some first => exact congrArg some (hanti first a (h.2 a ha) (hleast first h.1))

theorem eq_none_iff (h : IsFirst R P answer) : answer = none ↔ ∀ a, ¬ P a := by
  cases answer with
  | none => exact iff_of_true rfl h
  | some first => exact iff_of_false nofun fun hnone => hnone first h.1

/-- There is an answer up to `b` when something of the kind comes up to `b`. -/
theorem exists_rel_iff (h : IsFirst R P answer) (htrans : ∀ a b c, R a b → R b c → R a c)
    (b : α) : (∃ a, answer = some a ∧ R a b) ↔ ∃ a, P a ∧ R a b := by
  cases answer with
  | none =>
    refine iff_of_false nofun ?_
    rintro ⟨a, ha, -⟩
    exact h a ha
  | some first =>
    constructor
    · rintro ⟨_, ⟨⟩, hab⟩
      exact ⟨first, h.1, hab⟩
    · rintro ⟨a, ha, hab⟩
      exact ⟨first, rfl, htrans _ _ _ (h.2 a ha) hab⟩

theorem unique {other : Option α} (h : IsFirst R P answer) (h' : IsFirst R P other)
    (hanti : ∀ a b, R a b → R b a → a = b) : answer = other := by
  cases other with
  | none => exact h.eq_none_iff.2 h'
  | some b => exact (h.eq_some_iff hanti b).2 h'

/-- **Two kinds have the same first** when neither begins with something that the other does
not come before. -/
theorem eq_of_dominated {other : Option α} (h : IsFirst R P answer) (h' : IsFirst R Q other)
    (htrans : ∀ a b c, R a b → R b c → R a c) (hanti : ∀ a b, R a b → R b a → a = b)
    (hPQ : ∀ a, P a → ∃ b, Q b ∧ R b a) (hQP : ∀ b, Q b → ∃ a, P a ∧ R a b) :
    answer = other := by
  cases answer with
  | none =>
    refine (h'.eq_none_iff.2 fun b hb => ?_).symm
    obtain ⟨a, ha, -⟩ := hQP b hb
    exact h a ha
  | some first =>
    obtain ⟨b, hb, hbf⟩ := hPQ first h.1
    cases other with
    | none => exact absurd hb (h' b)
    | some second =>
      obtain ⟨a, ha, has⟩ := hQP second h'.1
      exact congrArg some (hanti _ _ (htrans _ _ _ (h.2 a ha) has)
        (htrans _ _ _ (h'.2 b hb) hbf))

/-- Where all that comes before something kept is kept, the first one that is kept is the
first one of all. -/
theorem filter (h : IsFirst R P answer) (keep : α → Bool)
    (hkeep : ∀ a b, R a b → keep b = true → keep a = true) :
    IsFirst R (fun a => P a ∧ keep a = true) (answer.filter keep) := by
  cases answer with
  | none => exact fun a ha => h a ha.1
  | some first =>
    by_cases hfirst : keep first = true
    · rw [Option.filter_some, if_pos hfirst]
      exact ⟨⟨h.1, hfirst⟩, fun b hb => h.2 b hb.1⟩
    · rw [Option.filter_some, if_neg hfirst]
      exact fun a ha => hfirst (hkeep _ _ (h.2 a ha.1) ha.2)

/-- **The first of either kind** is the one of the two firsts that comes before the other. -/
theorem merge {other : Option α} {pick : α → α → α} (h : IsFirst R P answer)
    (h' : IsFirst R Q other) (htrans : ∀ a b c, R a b → R b c → R a c)
    (hpick : ∀ a b, pick a b = a ∧ R a b ∨ pick a b = b ∧ R b a) :
    IsFirst R (fun a => P a ∨ Q a) (answer.merge pick other) := by
  cases answer with
  | none =>
    have hor : ∀ a, Q a ↔ P a ∨ Q a := fun a => (or_iff_right (h a)).symm
    cases other <;> exact h'.congr hor
  | some first =>
    cases other with
    | none => exact h.congr fun a => (or_iff_left (h' a)).symm
    | some second =>
      show (P (pick first second) ∨ Q (pick first second)) ∧
        ∀ b, P b ∨ Q b → R (pick first second) b
      rcases hpick first second with ⟨heq, hle⟩ | ⟨heq, hle⟩
      · rw [heq]
        exact ⟨.inl h.1, fun b hb => hb.elim (h.2 b) fun hb => htrans _ _ _ hle (h'.2 b hb)⟩
      · rw [heq]
        exact ⟨.inr h'.1, fun b hb => hb.elim (fun hb => htrans _ _ _ hle (h.2 b hb)) (h'.2 b)⟩

end IsFirst

namespace Schedule

variable {s : Schedule} {start cursor : Reading} {yearLimit : Nat}

/-! ## The steps of the search -/

/-- **What the search has established when its cursor stands somewhere.** -/
structure Reached (s : Schedule) (start cursor : Reading) : Prop where
  start_le : start ≤ cursor
  skipped : ∀ r, start ≤ r → r < cursor → ¬ s.Allows r
  monthDone : s.MonthDone start cursor

/-- The search begins where nothing has been passed over. -/
theorem Reached.refl (s : Schedule) (start : Reading) : s.Reached start start where
  start_le := Int.le_refl _
  skipped _ hr hlt := absurd hr (Int.not_le.2 hlt)
  monthDone _ hr hlt := absurd hr (Int.not_le.2 hlt)

/-- Moving on past readings that are not allowed, none of them at an allowed time
of an accepted date, or else to the beginning of a month. -/
theorem Reached.forward (h : s.Reached start cursor) {later : Reading} (hle : cursor ≤ later)
    (hskip : ∀ r, cursor ≤ r → r < later → ¬ s.Allows r)
    (hmonth : ∀ r, cursor ≤ r → r < later → later.monthStart ≤ r →
      ¬ (s.AllowsTime r ∧ s.AcceptsDay r.date)) : s.Reached start later where
  start_le := Int.le_trans h.start_le hle
  skipped r hr hlt := by
    by_cases hc : r < cursor
    · exact h.skipped r hr hc
    · exact hskip r (Reading.not_lt.1 hc) hlt
  monthDone r hr hlt hstart := by
    by_cases hc : r < cursor
    · exact h.monthDone r hr hc
        (Int.le_trans (Reading.monthStart_le_monthStart hle) hstart)
    · exact hmonth r (Reading.not_lt.1 hc) hlt hstart

/-- **Settling the second keeps the invariant.** -/
theorem Reached.settle (hs : s.WellFormed yearLimit) (h : s.Reached start cursor) :
    s.Reached start (s.settleSecond cursor) := by
  have hskip := (settleSecond_leads hs cursor).2
  exact h.forward (le_settleSecond s cursor) (fun r hr hlt hall => hskip r hr hlt hall.1.1)
    fun r hr hlt _ hall => hskip r hr hlt hall.1.1

/-- The wishes of the fields up to the day. -/
def moveTimeAndDay (s : Schedule) (start cursor : Reading) : Move :=
  (s.moveMinute cursor <|> s.moveHour cursor) <|> s.moveDay start cursor

/-- The wishes of the month and the year. -/
def moveMonthAndYear (s : Schedule) (cursor : Reading) : Move :=
  s.moveMonth cursor <|> s.moveYear cursor

theorem move_eq (s : Schedule) (start cursor : Reading) :
    s.move start cursor = (s.moveTimeAndDay start cursor <|> s.moveMonthAndYear cursor) := by
  simp only [move, moveTimeAndDay, moveMonthAndYear, Move.orElse_assoc]

/-- The month and the year only ever send the cursor to the beginning of a month. -/
theorem monthStart_of_moveMonthAndYear (hs : s.WellFormed yearLimit) {later : Reading}
    (h : s.moveMonthAndYear cursor = .goTo later) : later.monthStart = later := by
  rcases Move.orElse_eq_goTo h with h | ⟨-, h⟩
  · unfold moveMonth at h
    simp only at h
    split at h
    · rename_i month hv
      have hbound := hs.bounds _ _ (ValueSet.next?_eq_some hv).1
      split at h
      · cases h
      · cases h
        exact Reading.monthStart_ofDate hbound.1 (Nat.le_succ_of_le hbound.2)
    · have hbound := hs.bounds _ _ (leastOf_spec (hs.nonempty .month rfl)).1
      cases h
      exact Reading.monthStart_ofDate hbound.1 (Nat.le_succ_of_le hbound.2)
  · unfold moveYear at h
    split at h
    · split at h
      · cases h
      · cases h
        exact Reading.monthStart_ofDate (by omega) (by omega)
    · cases h

section
variable (hs : s.WellFormed yearLimit) (h : s.Reached start cursor)
  (hsecond : cursor.second ∈ (s.field .second).values)
include hs h hsecond

theorem moveTimeAndDay_leads :
    (s.moveTimeAndDay start cursor).Leads
      (fun r => (r.minute ∈ (s.field .minute).values ∧ r.hour ∈ (s.field .hour).values) ∧
        s.AcceptsDay r.date) cursor := by
  have htime : (s.moveMinute cursor <|> s.moveHour cursor).Leads _ cursor :=
    (moveMinute_leads hs).orElse fun _ => moveHour_leads hs
  refine htime.orElse fun hstay => ?_
  rw [hstay] at htime
  exact moveDay_leads hs h.start_le ⟨hsecond, htime⟩ h.monthDone

/-- **The move is right for what the schedule allows.** -/
theorem move_leads : (s.move start cursor).Leads
    (fun r => ((r.minute ∈ (s.field .minute).values ∧ r.hour ∈ (s.field .hour).values) ∧
      s.AcceptsDay r.date) ∧ s.AllowsMonth r.date) cursor := by
  rw [move_eq]
  exact (moveTimeAndDay_leads hs h hsecond).orElse fun _ =>
    (moveMonth_leads hs).orElse fun _ => moveYear_leads

/-- Where the search stays, the cursor is allowed. -/
theorem allows_of_stay (hmove : s.move start cursor = .stay) : s.Allows cursor := by
  have hlead := move_leads hs h hsecond
  rw [hmove] at hlead
  exact ⟨⟨hsecond, hlead.1.1⟩, hlead.1.2, hlead.2⟩

/-- Where it gives up, nothing from the start on is allowed. -/
theorem not_allows_of_never (hmove : s.move start cursor = .never) :
    ∀ r, start ≤ r → ¬ s.Allows r := by
  intro r hr hall
  have hlead := move_leads hs h hsecond
  rw [hmove] at hlead
  by_cases hc : r < cursor
  · exact h.skipped r hr hc hall
  · exact hlead r (Reading.not_lt.1 hc) ⟨⟨hall.1.2, hall.2.1⟩, hall.2.2⟩

/-- **A move keeps the invariant.** -/
theorem Reached.move {later : Reading} (hmove : s.move start cursor = .goTo later) :
    s.Reached start later := by
  have hlead := move_leads hs h hsecond
  rw [hmove] at hlead
  refine h.forward (Int.le_of_lt hlead.1)
    (fun r hr hlt hall => hlead.2 r hr hlt ⟨⟨hall.1.2, hall.2.1⟩, hall.2.2⟩) ?_
  rw [move_eq] at hmove
  rcases Move.orElse_eq_goTo hmove with hday | ⟨-, hmonth⟩
  · have hskip := moveTimeAndDay_leads hs h hsecond
    rw [hday] at hskip
    exact fun r hr hlt _ hall => hskip.2 r hr hlt ⟨hall.1.2, hall.2⟩
  · -- The month begins where the cursor goes, so nothing of it lies before.
    intro r _ hlt hstart
    rw [monthStart_of_moveMonthAndYear hs hmonth] at hstart
    exact absurd hlt (Int.not_lt.2 hstart)

end

/-- Allowed readings lie within the years that are searched. -/
theorem lt_horizon_of_allows (hs : s.WellFormed yearLimit) (hlimit : yearLimit ≤ Field.lastYear)
    {r : Reading} (h : s.Allows r) : r < horizon := by
  obtain ⟨year, hmem, heq⟩ := h.2.2.2
  have := (hs.bounds _ _ hmem).2
  simp only [Field.greatest, Field.lastYear] at *
  rw [horizon, Reading.lt_ofDate_month_iff _ _ (by omega) (by omega), Field.lastYear]
  omega

/-- **The search finds the first allowed reading** of the years that are searched, from
wherever its cursor has come to. -/
theorem searchFrom_isFirst (hs : s.WellFormed yearLimit) (h : s.Reached start cursor) :
    IsFirst (· ≤ ·) (fun r => start ≤ r ∧ s.Allows r ∧ r < horizon)
      (s.searchFrom start cursor) := by
  have hsecond : ∀ cursor, (s.settleSecond cursor).second ∈ (s.field .second).values :=
    fun cursor => (settleSecond_leads hs cursor).1
  -- The induction is on the steps of the search, and `Reached` carries it.
  fun_induction searchFrom s start cursor with
  | case1 cursor hc settled hmove hlt =>
    have hsettled := h.settle hs
    refine ⟨⟨hsettled.start_le, allows_of_stay hs hsettled (hsecond cursor) hmove, hlt⟩, ?_⟩
    rintro r ⟨hr, hall, -⟩
    exact Reading.not_lt.1 fun hlt => hsettled.skipped r hr hlt hall
  | case2 cursor hc settled hmove hlt =>
    -- Whatever is allowed comes no earlier than the cursor, which is past the last year.
    rintro r ⟨hr, hall, hbefore⟩
    refine (h.settle hs).skipped r hr ?_ hall
    exact Int.lt_of_lt_of_le hbefore (Int.not_lt.1 hlt)
  | case3 cursor hc settled later hmove hlt ih =>
    exact ih ((h.settle hs).move hs (hsecond cursor) hmove)
  | case4 cursor hc settled later hmove hlt =>
    have hlead := move_leads hs (h.settle hs) (hsecond cursor)
    rw [show s.move start (s.settleSecond cursor) = .goTo later from hmove] at hlead
    exact absurd (Int.lt_of_le_of_lt (le_settleSecond s cursor) hlead.1) hlt
  | case5 cursor hc settled hmove =>
    rintro r ⟨hr, hall, -⟩
    exact not_allows_of_never hs (h.settle hs) (hsecond cursor) hmove r hr hall
  | case6 cursor hc =>
    rintro r ⟨hr, hall, hbefore⟩
    exact h.skipped r hr (Int.lt_of_lt_of_le hbefore (Int.not_lt.1 hc)) hall

/-- The answer of the search, told from outside, whatever the years of the schedule. -/
theorem nextReading_isFirst_before (hs : s.WellFormed yearLimit) (after : Reading) :
    IsFirst (· ≤ ·) (fun r => after < r ∧ s.Allows r ∧ r < horizon) (s.nextReading after) :=
  (searchFrom_isFirst hs (.refl s after.next)).congr fun _ =>
    and_congr_left fun _ => Int.add_one_le_iff

/-- A schedule that names no year after the last one searched allows nothing after it. -/
theorem nextReading_isFirst (hs : s.WellFormed yearLimit) (hlimit : yearLimit ≤ Field.lastYear)
    (after : Reading) :
    IsFirst (· ≤ ·) (fun r => after < r ∧ s.Allows r) (s.nextReading after) :=
  (nextReading_isFirst_before hs after).congr fun _ =>
    and_congr_right fun _ => and_iff_left_of_imp (lt_horizon_of_allows hs hlimit)

theorem nextReading_eq_some (hs : s.WellFormed yearLimit) (hlimit : yearLimit ≤ Field.lastYear)
    {after r : Reading} (h : s.nextReading after = some r) :
    after < r ∧ s.Allows r ∧ ∀ r', after < r' → s.Allows r' → r ≤ r' := by
  have hfirst := nextReading_isFirst hs hlimit after
  rw [h] at hfirst
  exact ⟨hfirst.1.1, hfirst.1.2, fun r' hr' hallows => hfirst.2 r' ⟨hr', hallows⟩⟩

theorem nextReading_eq_none (hs : s.WellFormed yearLimit) (hlimit : yearLimit ≤ Field.lastYear)
    {after : Reading} (h : s.nextReading after = none) : ∀ r, after < r → ¬ s.Allows r := by
  have hfirst := nextReading_isFirst hs hlimit after
  rw [h] at hfirst
  exact fun r hr hallows => hfirst r ⟨hr, hallows⟩

/-! ## Parts of a second -/

/-- What a wall clock shows, with the part of the second in nanoseconds; in a leap
second the part is a whole one or more. -/
structure LocalTime where
  reading : Reading
  nanos : Nat

namespace LocalTime

instance : LT LocalTime :=
  ⟨fun a b => a.reading < b.reading ∨ a.reading = b.reading ∧ a.nanos < b.nanos⟩

/-- The beginning of a second. -/
def ofReading (r : Reading) : LocalTime :=
  ⟨r, 0⟩

/-- The seconds that begin later are those of later readings. -/
theorem lt_ofReading_iff {time : LocalTime} {r : Reading} :
    time < ofReading r ↔ time.reading < r :=
  or_iff_left fun h => Nat.not_lt_zero _ h.2

end LocalTime

/-- **The next reading is the earliest one after `after` that the schedule allows**,
and there is none exactly when the schedule allows none. The search drops the part
of a second, which does not change what comes later. -/
theorem nextReading_eq_iff {currentYear : Int} {zone : Zone} {text : String}
    (h : read (Field.yearLimit currentYear) zone text = .ok s) (after : LocalTime) :
    (∀ r, s.nextReading after.reading = some r ↔
      after < .ofReading r ∧ s.Allows r ∧
        ∀ r', after < .ofReading r' → r' < r → ¬ s.Allows r') ∧
    (s.nextReading after.reading = none ↔ ∀ r, after < .ofReading r → ¬ s.Allows r) := by
  have hlimit : Field.yearLimit currentYear ≤ Field.lastYear := Nat.min_le_right _ _
  have hs := wellFormed_of_read (hlimit.trans (by decide)) h
  have hfirst := nextReading_isFirst hs hlimit after.reading
  have hanti : ∀ a b : Reading, a ≤ b → b ≤ a → a = b :=
    fun a b hab hba => Reading.ext (Int.le_antisymm hab hba)
  simp only [LocalTime.lt_ofReading_iff]
  refine ⟨fun r => ?_, ?_⟩
  · rw [hfirst.eq_some_iff hanti, and_assoc]
    refine and_congr_right fun _ => and_congr_right fun _ => forall_congr' fun r' => ?_
    rw [and_imp, ← Reading.not_lt, imp_not_comm]
  · rw [hfirst.eq_none_iff]
    simp only [not_and]

/-- After the last workday of May 2025, a Friday, comes the last one of June. -/
theorem nextReading_lastWorkday :
    ∃ s, read (Field.yearLimit 2025) .utc "0 0 18 LW * ?" = .ok s ∧
      s.Allows (.ofParts 20269 18 0 0) ∧
      ∀ r, (⟨.ofParts 20238 18 0 0, 500000000⟩ : LocalTime) < .ofReading r →
        r < .ofParts 20269 18 0 0 → ¬ s.Allows r := by
  obtain ⟨s, hs, hnext⟩ := exists_of_bind_eq_some
    (by decide +kernel : (read (Field.yearLimit 2025) .utc "0 0 18 LW * ?").toOption.bind
      (·.nextReading (.ofParts 20238 18 0 0)) = some (.ofParts 20269 18 0 0))
  exact ⟨s, hs, (((nextReading_eq_iff hs ⟨_, 500000000⟩).1 _).1 hnext).2⟩

end Schedule

end CronSchedule
