import CronSchedule.Proofs.Expression.Limit
import CronSchedule.Proofs.Schedule.Read
import CronSchedule.Proofs.Search.Reading

/-!
# A schedule under two year limits

The same text, read later, may name later years. What it makes then is the earlier schedule
with more years in it (`IsUpTo`, `exists_read_later`), and a text that is only accepted
later had a year out of range, and nothing else wrong with it (`outOfRange_of_read`). So the
next reading is the same one as long as it lies within the earlier limit, and after that
the earlier schedule has none (`IsUpTo.nextReading_eq`). `read_of_le_yearLimit` has it all.
-/

namespace CronSchedule

/-- Where only the year can fail, it decides. -/
theorem Fields.mapExcept_of_year {α β ε : Type} {f : Field → α → Except ε β} {fields : Fields α}
    {results : Fields β}
    (h : ∀ field, field ≠ .year → f field (fields.get field) = .ok (results.get field)) :
    fields.mapExcept f = (f .year fields.year).map fun year => { results with year := year } := by
  have hsecond : f .second fields.second = .ok results.second := h .second (by decide)
  have hminute : f .minute fields.minute = .ok results.minute := h .minute (by decide)
  have hhour : f .hour fields.hour = .ok results.hour := h .hour (by decide)
  have hdays : f .dayOfMonth fields.dayOfMonth = .ok results.dayOfMonth :=
    h .dayOfMonth (by decide)
  have hmonth : f .month fields.month = .ok results.month := h .month (by decide)
  have hweek : f .dayOfWeek fields.dayOfWeek = .ok results.dayOfWeek := h .dayOfWeek (by decide)
  simp only [mapExcept, hsecond, hminute, hhour, hdays, hmonth, hweek, ok_bind]
  cases f .year fields.year <;> rfl

namespace Schedule

open Expression Text

variable {s t : Schedule} {yearLimit wider : Nat} {zone : Zone} {text : String} {after : Reading}

/-- **The schedule is another one without the years after a limit.** -/
structure IsUpTo (yearLimit : Nat) (s t : Schedule) : Prop where
  text : s.text = t.text
  zone : s.zone = t.zone
  day : s.day = t.day
  field : ∀ field, field ≠ .year → s.field field = t.field field
  isAll_year : (s.field .year).isAll = (t.field .year).isAll
  mem_year_iff : ∀ x, x ∈ (s.field .year).values ↔ x ∈ (t.field .year).values ∧ x ≤ yearLimit

/-! ## The next reading -/

/-- It allows what the other one does within the limit. -/
theorem IsUpTo.allows_iff (h : s.IsUpTo yearLimit t) (r : Reading) :
    s.Allows r ↔ t.Allows r ∧ r.date.year ≤ yearLimit := by
  have hsame : ∀ field, field ≠ .year → s.field field = t.field field := h.field
  simp only [Allows, AllowsTime, AcceptsDay, AllowsMonth, h.day, h.mem_year_iff,
    hsame .second (by decide), hsame .minute (by decide), hsame .hour (by decide),
    hsame .dayOfMonth (by decide), hsame .month (by decide), hsame .dayOfWeek (by decide)]
  constructor
  · rintro ⟨htime, hday, hmonth, year, ⟨hyear, hle⟩, heq⟩
    exact ⟨⟨htime, hday, hmonth, year, hyear, heq⟩, by omega⟩
  · rintro ⟨⟨htime, hday, hmonth, year, hyear, heq⟩, hle⟩
    exact ⟨htime, hday, hmonth, year, ⟨hyear, by omega⟩, heq⟩

/-- **The next reading is that of the other schedule, if its year is within the limit**, and
otherwise there is none. -/
theorem IsUpTo.nextReading_eq (h : s.IsUpTo yearLimit t) (hs : s.WellFormed yearLimit)
    (ht : t.WellFormed wider) :
    s.nextReading after =
      (t.nextReading after).filter fun r => decide (r.date.year ≤ (yearLimit : Int)) := by
  -- What comes before a reading within the limit is within it as well.
  have hkeep : ∀ a b : Reading, a ≤ b → decide (b.date.year ≤ (yearLimit : Int)) = true →
      decide (a.date.year ≤ (yearLimit : Int)) = true := by
    intro a b hab hb
    have := Reading.year_le_year hab
    simp only [decide_eq_true_eq] at *
    omega
  have hkept := (nextReading_isFirst_before ht after).filter _ hkeep
  refine (nextReading_isFirst_before hs after).unique (hkept.congr fun r => ?_)
    fun _ _ => Reading.le_antisymm
  rw [h.allows_iff, decide_eq_true_eq, and_assoc]
  exact and_congr_right fun _ => and_right_comm

/-! ## Reading the text -/

section

variable (hle : yearLimit ≤ wider) (hwider : wider ≤ Cursor.greatestNumber)
include hle hwider

/-- **A text that is accepted is accepted later**, and only gains years. -/
theorem exists_read_later (h : read yearLimit zone text = .ok s) :
    ∃ t, read wider zone text = .ok t ∧ s.IsUpTo yearLimit t := by
  have hfirst := firstYear_le_of_read h
  obtain ⟨fs, items, hfs, hitems, hday, rfl⟩ :=
    (ofNormalized_eq_ok hfirst (hle.trans hwider)).1 h
  have hmono : ∀ field, IsField wider field (fs.get field).chars (items.get field) :=
    fun field => (hitems field).mono (field.greatest_mono hle)
  refine ⟨_, (ofNormalized_eq_ok (hfirst.trans hle) hwider).2
    ⟨fs, items, hfs, hmono, hday, rfl⟩, rfl, rfl, rfl, fun field hyear => ?_, ?_, fun x => ?_⟩
  · rw [field_mk_map, field_mk_map]
    exact valueSet_congr (Field.greatest_of_ne_year hyear)
  · rw [field_mk_map, field_mk_map, Bool.eq_iff_iff, isAll_valueSet, isAll_valueSet]
  · rw [field_mk_map, field_mk_map]
    exact (hitems .year).mem_valueSet_year_iff hle

/-- **A text that is only accepted later had a year out of range**, in its year field. -/
theorem outOfRange_of_read {error : ExpressionError} (hfirst : Field.firstYear ≤ yearLimit)
    (h : read yearLimit zone text = .error error) (hlater : read wider zone text = .ok t) :
    ∃ tokens, fieldTokens (normalize text.toList) = .ok tokens ∧
      error.fault = .outOfRange .year yearLimit ∧ tokens.year.offset ≤ error.position ∧
      error.position < tokens.year.offset + byteLength tokens.year.chars := by
  obtain ⟨fs, items, hfs, hitems, hday, rfl⟩ :=
    (ofNormalized_eq_ok (hfirst.trans hle) hwider).1 hlater
  refine ⟨fs, hfs, ?_⟩
  have hread : ∀ field, field ≠ .year →
      readItems yearLimit field (fs.get field) = .ok (items.get field) := by
    intro field hyear
    exact (readItems_eq_ok hfirst (hle.trans hwider)).2
      ((hitems field).mono (Field.greatest_of_ne_year hyear).le)
  have hwide := (readItems_eq_ok (hfirst.trans hle) hwider).2 (hitems .year)
  cases hyear : readItems yearLimit .year fs.year with
  | error fault =>
    obtain rfl : fault = error := by
      simp only [read, ofNormalized, hfs, ok_bind, Fields.mapExcept_of_year hread, hyear] at h
      exact Except.error.inj h
    exact readItems_outOfRange hfirst hle hwider hwide hyear
  | ok years =>
    -- Then every field is in the grammar, and the text is accepted already.
    have hyears := (readItems_eq_ok hfirst (hle.trans hwider)).1 hyear
    obtain rfl : years = items.get .year :=
      (hyears.mono (Field.year.greatest_mono hle)).unique (hfirst.trans hle) hwider (hitems .year)
    have hall : ∀ field, IsField yearLimit field (fs.get field).chars (items.get field) := by
      intro field
      by_cases hfield : field = .year
      · exact hfield ▸ hyears
      · exact (hitems field).mono (Field.greatest_of_ne_year hfield).le
    have haccepted : read yearLimit zone text = .ok _ :=
      (ofNormalized_eq_ok hfirst (hle.trans hwider)).2 ⟨fs, items, hfs, hall, hday, rfl⟩
    rw [haccepted] at h
    cases h

end

/-- **One text under two year limits.** Accepted under the earlier one, it is accepted under
the later one as the same schedule with the later years in it, and the next reading is the
same as far as its year is within the earlier limit. Accepted under the later one alone, it
had a year out of range, which is what the message says. -/
theorem read_of_le_yearLimit {earlier later : UInt32} (hle : earlier ≤ later)
    (hfirst : Field.firstYear ≤ earlier.toNat) (zone : Zone) (text : String) :
    (∀ s, read earlier.toNat zone text = .ok s → ∃ t, read later.toNat zone text = .ok t ∧
      s.IsUpTo earlier.toNat t ∧ ∀ after, s.nextReading after =
        (t.nextReading after).filter fun r => decide (r.date.year ≤ (earlier.toNat : Int))) ∧
    ∀ error t, read earlier.toNat zone text = .error error → read later.toNat zone text = .ok t →
      ∃ tokens, fieldTokens (normalize text.toList) = .ok tokens ∧
        error.fault = .outOfRange .year earlier.toNat ∧
        error.fault.message =
          s!"Year values must be between {Field.firstYear} and {earlier.toNat}" ∧
        tokens.year.offset ≤ error.position ∧
        error.position < tokens.year.offset + byteLength tokens.year.chars := by
  have hle : earlier.toNat ≤ later.toNat := hle
  have hlater : later.toNat ≤ Cursor.greatestNumber := Nat.le_of_lt_succ later.toNat_lt
  refine ⟨fun s hs => ?_, fun error t herror ht => ?_⟩
  · obtain ⟨t, ht, hup⟩ := exists_read_later hle hlater hs
    exact ⟨t, ht, hup, fun after =>
      hup.nextReading_eq (wellFormed_of_read (hle.trans hlater) hs) (wellFormed_of_read hlater ht)⟩
  · obtain ⟨tokens, htokens, hfault, hplace⟩ := outOfRange_of_read hle hlater hfirst herror ht
    have hmessage : error.fault.message =
        s!"Year values must be between {Field.firstYear} and {earlier.toNat}" := by
      rw [hfault]
      rfl
    exact ⟨tokens, htokens, hfault, hmessage, hplace⟩

/-- Every second year from 2048 on, and a list with the year 2060 in it, when years end with
2050 and when they end with 2100. The new year of 2052 is found under the later limit only. -/
theorem read_of_le_yearLimit_newYears :
    (2050 : UInt32) ≤ 2100 ∧ Field.firstYear ≤ (2050 : UInt32).toNat ∧
      (∃ s t, read (2050 : UInt32).toNat .utc "0 0 0 1 1 ? 2048/2" = .ok s ∧
        (s.field .year).values = [2048, 2050] ∧
        read (2100 : UInt32).toNat .utc "0 0 0 1 1 ? 2048/2" = .ok t ∧
        s.IsUpTo (2050 : UInt32).toNat t ∧
        (∀ after, s.nextReading after = (t.nextReading after).filter fun r =>
          decide (r.date.year ≤ ((2050 : UInt32).toNat : Int))) ∧
        t.nextReading (.ofDate ⟨2050, 6, 1⟩) = some (.ofDate ⟨2052, 1, 1⟩) ∧
        s.nextReading (.ofDate ⟨2050, 6, 1⟩) = none) ∧
      ∃ error t, read (2050 : UInt32).toNat .utc "0 0 0 1 1 ? 2040,2060" = .error error ∧
        read (2100 : UInt32).toNat .utc "0 0 0 1 1 ? 2040,2060" = .ok t ∧
        ∃ tokens, fieldTokens (normalize "0 0 0 1 1 ? 2040,2060".toList) = .ok tokens ∧
          error.fault = .outOfRange .year (2050 : UInt32).toNat ∧
          error.fault.message =
            s!"Year values must be between {Field.firstYear} and {(2050 : UInt32).toNat}" ∧
          tokens.year.offset ≤ error.position ∧
          error.position < tokens.year.offset + byteLength tokens.year.chars := by
  have hle : (2050 : UInt32) ≤ 2100 := by decide
  have hfirst : Field.firstYear ≤ (2050 : UInt32).toNat := by decide
  refine ⟨hle, hfirst, ?_, ?_⟩
  · obtain ⟨s, hs, hyears⟩ := exists_of_bind_eq_some
      (by decide +kernel : (read (2050 : UInt32).toNat .utc "0 0 0 1 1 ? 2048/2").toOption.bind
        (fun s => some (s.field .year).values) = some [2048, 2050])
    obtain ⟨t, ht, hup, hnext⟩ :=
      (read_of_le_yearLimit hle hfirst .utc "0 0 0 1 1 ? 2048/2").1 s hs
    have hfound : (read (2100 : UInt32).toNat .utc "0 0 0 1 1 ? 2048/2").map
        (·.nextReading (.ofDate ⟨2050, 6, 1⟩)) = .ok (some (.ofDate ⟨2052, 1, 1⟩)) := by
      decide +kernel
    rw [ht] at hfound
    have hfound : t.nextReading (.ofDate ⟨2050, 6, 1⟩) = some (.ofDate ⟨2052, 1, 1⟩) :=
      Except.ok.inj hfound
    refine ⟨s, t, hs, Option.some.inj hyears, ht, hup, hnext, hfound, ?_⟩
    rw [hnext, hfound]
    decide +kernel
  · have hwrong : read (2050 : UInt32).toNat .utc "0 0 0 1 1 ? 2040,2060" =
        .error ⟨.outOfRange .year 2050, 17⟩ := by decide +kernel
    obtain ⟨t, ht, -⟩ := exists_of_bind_eq_some
      (by decide +kernel : (read (2100 : UInt32).toNat .utc "0 0 0 1 1 ? 2040,2060").toOption.bind
        (fun s => some (s.field .year).values) = some [2040, 2060])
    exact ⟨_, t, hwrong, ht,
      (read_of_le_yearLimit hle hfirst .utc "0 0 0 1 1 ? 2040,2060").2 _ t hwrong ht⟩

end Schedule

end CronSchedule
