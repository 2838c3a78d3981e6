import CronSchedule.Proofs.Expression.Normal
import CronSchedule.Proofs.Expression.Printed
import CronSchedule.Proofs.Schedule.Read
import CronSchedule.Zone.Database

/-!
# The expanded form of a schedule

Writing the sets of a schedule one after the other gives an expression again (`printed`).
Where no single item such as `L` chooses the day (`DayRule.IsPlain`), this expression has the
same sets and the same choice of the day, so it denotes the same schedule (`read_printed`).
-/

namespace CronSchedule

/-- The day is left open, or chosen from a list. -/
def DayRule.IsPlain (rule : DayRule) : Prop :=
  rule = .any ∨ rule = .monthDays ∨ rule = .weekDays

namespace Expression

variable {yearLimit : Nat} {items days weekdays : List Item} {listed : DayRule}

theorem not_chooses_of_isPlain (h : (fieldDayRule listed items).IsPlain) :
    ∀ item rule, items = [item] → ¬ item.Chooses rule := by
  rintro item rule rfl hchooses
  rw [fieldDayRule_of_chooses hchooses] at h
  cases hchooses <;> simp [DayRule.IsPlain] at h

/-- **The expanded form makes the same choice of the day.** -/
theorem dayRule_printed (h : (dayRule days weekdays).IsPlain) :
    dayRule (printedItems (valueSet yearLimit .dayOfMonth days))
      (printedItems (valueSet yearLimit .dayOfWeek weekdays)) = dayRule days weekdays := by
  unfold dayRule at h ⊢
  simp only [unspecified_mem_printedItems, isUnspecified_valueSet]
  split
  · rename_i hdays
    rw [if_pos hdays] at h
    exact fieldDayRule_printed hdays (not_chooses_of_isPlain h)
  · rename_i hdays
    rw [if_neg hdays] at h
    split
    · rename_i hweekdays
      rw [if_pos hweekdays] at h
      exact fieldDayRule_printed hweekdays (not_chooses_of_isPlain h)
    · rfl

end Expression

namespace Schedule

open Expression Text

variable {s : Schedule} {yearLimit : Nat} {zone other : Zone} {text : String}

/-- The sets of a schedule as an expression. -/
def printed (s : Schedule) : String :=
  " ".intercalate (Field.all.map fun field => (s.field field).text)

/-- **Fields of the grammar with single spaces between them are read** as what they mean. -/
theorem read_of_fields {texts : Fields (List Char)} {items : Fields (List Item)}
    (hfirst : Field.firstYear ≤ yearLimit) (hlimit : yearLimit ≤ Cursor.greatestNumber)
    (htext : text.toList = [' '].intercalate (Field.all.map texts.get))
    (hfields : ∀ field, IsField yearLimit field (texts.get field) (items.get field))
    (hleft : .unspecified ∈ items.dayOfMonth ∨ .unspecified ∈ items.dayOfWeek) :
    read yearLimit zone text = .ok ⟨text, items.map (valueSet yearLimit),
      dayRule items.dayOfMonth items.dayOfWeek, zone⟩ := by
  have hchars : ∀ field, ∀ c ∈ texts.get field, IsFieldChar c :=
    fun field => (hfields field).isFieldChar
  have hnormal : normalize text.toList = text.toList := by
    rw [htext]
    refine normalize_intercalate fun word hword => ?_
    obtain ⟨field, -, rfl⟩ := List.mem_map.1 hword
    exact ⟨(hfields field).ne_nil, hchars field⟩
  obtain ⟨fs, hfs, hmap⟩ := fieldTokens_intercalate fun field =>
    ⟨(hfields field).ne_nil, fun hspace => absurd (hchars field ' ' hspace) (by decide)⟩
  rw [← htext] at hfs
  rw [read, hnormal, ofNormalized_eq_ok hfirst hlimit]
  refine ⟨fs, items, hfs, fun field => ?_, hleft, by rw [String.ofList_toList]⟩
  rw [chars_of_map_get hmap]
  exact hfields field

/-- A set that has no value to be written counts days from the end of the month. -/
theorem not_isEmpty_of_isPlain {items : Fields (List Item)} {fs : Fields Token}
    (hfirst : Field.firstYear ≤ yearLimit)
    (hitems : ∀ field, IsField yearLimit field (fs.get field).chars (items.get field))
    (hday : (dayRule items.dayOfMonth items.dayOfWeek).IsPlain) (field : Field) :
    ¬ (valueSet yearLimit field (items.get field)).isEmpty := by
  intro hempty
  obtain ⟨rfl, hlast⟩ := (hitems field).not_isEmpty hfirst hempty
  have hleft : .unspecified ∉ items.dayOfMonth := by
    intro hmem
    have hmark : (valueSet yearLimit .dayOfMonth (items.get .dayOfMonth)).isUnspecified = true :=
      isUnspecified_valueSet.2 hmem
    simp [ValueSet.isEmpty, hmark] at hempty
  rw [dayRule, if_pos hleft] at hday
  change (fieldDayRule .monthDays items.dayOfMonth).isLastDayOfMonth = true at hlast
  rcases hday with hday | hday | hday <;> simp [hday, DayRule.isLastDayOfMonth] at hlast

/-- **The expanded form of a schedule denotes the same schedule**, on any wall clock. -/
theorem read_printed {yearLimit : UInt32} (other : Zone)
    (h : read yearLimit.toNat zone text = .ok s) (hday : s.day.IsPlain) :
    ∃ t, read yearLimit.toNat other s.printed = .ok t ∧ t.fields = s.fields ∧ t.day = s.day := by
  have hlimit : yearLimit.toNat ≤ Cursor.greatestNumber := Nat.le_of_lt_succ yearLimit.toNat_lt
  have hfirst := firstYear_le_of_read h
  obtain ⟨fs, items, -, hitems, hleft, rfl⟩ := (ofNormalized_eq_ok hfirst hlimit).1 h
  have htext : (printed ⟨String.ofList (normalize text.toList),
      items.map (valueSet yearLimit.toNat), dayRule items.dayOfMonth items.dayOfWeek,
      zone⟩).toList =
      [' '].intercalate (Field.all.map (items.map fun field items =>
        (valueSet yearLimit.toNat field items).text.toList).get) := by
    rw [printed, String.toList_intercalate, List.map_map]
    refine congrArg _ (List.map_congr_left fun field _ => ?_)
    rw [Function.comp_apply, field_mk_map, Fields.get_map]
  have hfields : ∀ field, IsField yearLimit.toNat field
      ((items.map fun field items => (valueSet yearLimit.toNat field items).text.toList).get field)
      ((items.map fun field items => printedItems (valueSet yearLimit.toNat field items)).get
        field) := by
    intro field
    rw [Fields.get_map, Fields.get_map]
    exact (hitems field).printed (not_isEmpty_of_isPlain hfirst hitems hday field)
  have hmark : ∀ field, .unspecified ∈ items.get field →
      .unspecified ∈ printedItems (valueSet yearLimit.toNat field (items.get field)) :=
    fun field hmem => unspecified_mem_printedItems.2 (isUnspecified_valueSet.2 hmem)
  refine ⟨_, read_of_fields hfirst hlimit htext hfields
    (hleft.imp (hmark .dayOfMonth) (hmark .dayOfWeek)), ?_, dayRule_printed hday⟩
  refine Fields.ext_get fun field => ?_
  simp only [Fields.get_map]
  exact (hitems field).valueSet_printed

/-- A step, ranges that start over, a `*` beside other hours, names and years out of order. -/
theorem read_printed_weekends :
    ∃ s, read (2125 : UInt32).toNat .utc "*/20 58-2 22-3/2,* ? nov-feb fri-mon 2030,2028-2029" =
        .ok s ∧
      s.printed = "0,20,40 0,1,2,58,59 * ? 1,2,11,12 1,2,6,7 2028,2029,2030" ∧
      s.day = .weekDays ∧ s.day.IsPlain ∧
      ∃ t, read (2125 : UInt32).toNat .asiaTokyo s.printed = .ok t ∧
        t.fields = s.fields ∧ t.day = s.day := by
  obtain ⟨s, hs, hboth⟩ := exists_of_bind_eq_some
    (by decide +kernel : (read (2125 : UInt32).toNat .utc
      "*/20 58-2 22-3/2,* ? nov-feb fri-mon 2030,2028-2029").toOption.bind
        (fun s => some (s.printed, s.day)) =
      some ("0,20,40 0,1,2,58,59 * ? 1,2,11,12 1,2,6,7 2028,2029,2030", .weekDays))
  obtain ⟨hprinted, hday⟩ := Prod.mk.inj (Option.some.inj hboth)
  have hplain : s.day.IsPlain := .inr (.inr hday)
  exact ⟨s, hs, hprinted, hday, hplain, read_printed .asiaTokyo hs hplain⟩

end Schedule

end CronSchedule
