import CronSchedule.Proofs.Schedule.Meaning
import CronSchedule.Proofs.Search.Moves

/-!
# The marks of the sets, and the sets that the search reads

A set that is marked as `*` is the whole range of its field, and one that is marked as
`?` is empty, belongs to a day field, and leaves the day to the other one: `WellMarked`
says so of the sets of a schedule. The search for the next reading looks at the time
fields, the month and the year, and at a day field when the day rule goes by its list
(`Reads`, `nextReading_congr`). None of the sets that it reads is empty, so asking them
for their least value always gives one (`wellFormed_and_wellMarked_of_read`).
-/

namespace CronSchedule

namespace Schedule

open Expression

variable {s s' : Schedule} {start cursor after : Reading}

/-! ## The marks -/

/-- **What the marks of a schedule mean.** A set that is marked as `*` is the whole range
of its field; `?` marks an empty set of a day field, and one of these always. -/
structure WellMarked (yearLimit : Nat) (s : Schedule) : Prop where
  all : ∀ field, (s.field field).isAll = true → ∀ x,
    x ∈ (s.field field).values ↔ field.least ≤ x ∧ x ≤ field.greatest yearLimit
  unspecified : ∀ field, (s.field field).isUnspecified = true →
    field.isDay = true ∧ (s.field field).values = [] ∧ (s.field field).isAll = false
  exists_unspecified : (s.field .dayOfMonth).isUnspecified = true ∨
    (s.field .dayOfWeek).isUnspecified = true

/-- **The marks of an expression mean what they should.** -/
theorem wellMarked_of_read {yearLimit : Nat} {zone : Zone} {text : String}
    (hlimit : yearLimit ≤ Cursor.greatestNumber) (h : read yearLimit zone text = .ok s) :
    s.WellMarked yearLimit := by
  have hfirst := firstYear_le_of_read h
  obtain ⟨fs, items, -, hitems, hday, rfl⟩ := (ofNormalized_eq_ok hfirst hlimit).1 h
  refine ⟨fun field hall x => ?_, fun field hleft => ?_, ?_⟩
  · rw [field_mk_map] at hall ⊢
    exact (hitems field).mem_valueSet_of_all (isAll_valueSet.1 hall)
  · rw [field_mk_map] at hleft ⊢
    obtain ⟨hday, hset⟩ :=
      (hitems field).valueSet_of_unspecified (isUnspecified_valueSet.1 hleft)
    rw [hset]
    exact ⟨hday, rfl, rfl⟩
  · rw [field_mk_map, field_mk_map, isUnspecified_valueSet, isUnspecified_valueSet]
    exact hday

/-! ## The sets that are read -/

/-- **The search reads the set of a field**: those of the time, the month and the year, and
that of a day field when the day rule is its list. -/
inductive Reads (s : Schedule) : Field → Prop
  /-- A field that is not about days. -/
  | other {field : Field} : field.isDay = false → Reads s field
  /-- The listed days of the month. -/
  | monthDays : s.day = .monthDays → Reads s .dayOfMonth
  /-- The listed weekdays. -/
  | weekDays : s.day = .weekDays → Reads s .dayOfWeek

section

variable (hsame : ∀ field, s.Reads field → s.field field = s'.field field)
include hsame

theorem settleSecond_congr : s.settleSecond cursor = s'.settleSecond cursor := by
  unfold settleSecond
  rw [hsame .second (.other rfl)]

theorem moveDay_congr (hday : s.day = s'.day) :
    s.moveDay start cursor = s'.moveDay start cursor := by
  unfold moveDay
  rw [← hday]
  cases hrule : s.day with
  | monthDays => rw [hsame .dayOfMonth (.monthDays hrule)]
  | weekDays => rw [hsame .dayOfWeek (.weekDays hrule)]
  | lastDay offset nearest => cases nearest <;> rfl
  | _ => rfl

theorem move_congr (hday : s.day = s'.day) : s.move start cursor = s'.move start cursor := by
  unfold move moveMinute moveHour moveMonth moveYear
  rw [moveDay_congr hsame hday, hsame .minute (.other rfl), hsame .hour (.other rfl),
    hsame .month (.other rfl), hsame .year (.other rfl)]

/-- **The search looks at nothing else**: schedules with the same day rule that agree on
the sets it reads have the same next reading. -/
theorem nextReading_congr (hday : s.day = s'.day) : s.nextReading after = s'.nextReading after := by
  have hsearch : ∀ start cursor, s.searchFrom start cursor = s'.searchFrom start cursor := by
    intro start cursor
    -- Each step settles the same second and makes the same move.
    fun_induction searchFrom s start cursor with
    | case1 cursor hc settled hmove hlt | case2 cursor hc settled hmove hlt
    | case3 cursor hc settled later hmove hlt ih | case4 cursor hc settled later hmove hlt
    | case5 cursor hc settled hmove =>
      rw [searchFrom.eq_def s', if_pos hc, ← settleSecond_congr hsame]
      simp only [← move_congr hsame hday]
      simp_all [settled]
    | case6 cursor hc => rw [searchFrom.eq_def s', if_neg hc]
  exact hsearch _ _

end

theorem Reads.values_ne_nil {yearLimit : Nat} {field : Field} (hs : s.WellFormed yearLimit)
    (h : s.Reads field) : (s.field field).values ≠ [] := by
  have hfits := hs.day
  cases h with
  | other hfield => exact hs.nonempty field hfield
  | monthDays hrule =>
    rw [hrule] at hfits
    exact hfits.1
  | weekDays hrule =>
    rw [hrule] at hfits
    exact hfits.1

/-- **The sets of an expression.** All values are in their fields, the fields that are not
about days have some, the marks mean what they should, and the day rule fits the day fields.
A set that the search reads has a least value, and no other set makes a difference to it. -/
theorem wellFormed_and_wellMarked_of_read {yearLimit : UInt32} {zone : Zone} {text : String}
    (h : read yearLimit.toNat zone text = .ok s) :
    s.WellFormed yearLimit.toNat ∧ s.WellMarked yearLimit.toNat ∧
      (∀ field, s.Reads field → (s.field field).first? = some (leastOf (s.field field))) ∧
      ∀ t : Schedule, s.day = t.day →
        (∀ field, s.Reads field → s.field field = t.field field) →
        ∀ after, s.nextReading after = t.nextReading after := by
  have hlimit : yearLimit.toNat ≤ Cursor.greatestNumber := Nat.le_of_lt_succ yearLimit.toNat_lt
  have hs := wellFormed_of_read hlimit h
  refine ⟨hs, wellMarked_of_read hlimit h, fun field hreads => ?_,
    fun t hday hsame after => nextReading_congr hsame hday⟩
  have hne := hreads.values_ne_nil hs
  unfold leastOf ValueSet.first?
  cases hv : (s.field field).values with
  | nil => exact absurd hv hne
  | cons first rest => rfl

/-- The last workday of a month leaves both day sets empty, and the search reads neither. -/
theorem wellFormed_and_wellMarked_lastWorkday :
    ∃ s, read (2125 : UInt32).toNat .utc "0 */20 9-17 LW * ?" = .ok s ∧
      s.day = .lastDay 0 true ∧ (s.field .dayOfMonth).values = [] ∧
      s.WellFormed (2125 : UInt32).toNat ∧ s.WellMarked (2125 : UInt32).toNat ∧
      (∀ field, s.Reads field → (s.field field).first? = some (leastOf (s.field field))) ∧
      ∀ t : Schedule, s.day = t.day →
        (∀ field, s.Reads field → s.field field = t.field field) →
        ∀ after, s.nextReading after = t.nextReading after := by
  obtain ⟨s, hs, hvalues⟩ := exists_of_bind_eq_some
    (by decide +kernel : (read (2125 : UInt32).toNat .utc "0 */20 9-17 LW * ?").toOption.bind
      (fun s => some (s.day, (s.field .dayOfMonth).values)) = some (.lastDay 0 true, []))
  obtain ⟨hday, hnone⟩ := Prod.mk.inj (Option.some.inj hvalues)
  exact ⟨s, hs, hday, hnone, wellFormed_and_wellMarked_of_read hs⟩

end Schedule

end CronSchedule
