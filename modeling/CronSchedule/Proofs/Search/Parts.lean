import CronSchedule.Proofs.Expression.Meaning
import CronSchedule.Proofs.Search.Reading

/-!
# The next reading of a list

A schedule allows a reading when every field is met (`allows_iff_forall_meets`), and a field
that is a list is met by its values, whatever else is said of the day (`meets_of_list`). So a
list of two parts allows what one of the parts allows (`allows_iff_of_parts`), and its next
reading is the earlier of theirs (`nextReading_eq_of_parts`).
-/

namespace CronSchedule

namespace Reading

/-- The part of a reading that a field is about. -/
def part (r : Reading) : Field → Int
  | .second => r.second
  | .minute => r.minute
  | .hour => r.hour
  | .dayOfMonth => r.date.day
  | .month => r.date.month
  | .dayOfWeek => r.date.weekday
  | .year => r.date.year

/-- The one of two readings that comes first. -/
def earlier (a b : Reading) : Reading :=
  if a ≤ b then a else b

theorem earlier_cases (a b : Reading) :
    a.earlier b = a ∧ a ≤ b ∨ a.earlier b = b ∧ b ≤ a := by
  unfold earlier
  split
  · rename_i hle
    exact .inl ⟨rfl, hle⟩
  · rename_i hle
    exact .inr ⟨rfl, Int.le_of_lt (Int.not_le.1 hle)⟩

end Reading

namespace Schedule

open Expression Text

variable {s a b : Schedule} {yearLimit : Nat} {items : Fields (List Item)} {field other : Field}
variable {listed first second : List Item} {r : Reading} {text : List Char}

/-- **The schedule is made of items**, of which one day field leaves the day to the other. -/
structure IsMadeOf (yearLimit : Nat) (items : Fields (List Item)) (s : Schedule) : Prop where
  field : ∀ field, s.field field = valueSet yearLimit field (items.get field)
  day : s.day = dayRule (items.get .dayOfMonth) (items.get .dayOfWeek)
  unspecified : .unspecified ∈ items.get .dayOfMonth ∨ .unspecified ∈ items.get .dayOfWeek

/-- **A field is met by a reading**: the part that it is about is one of the values. A day
field is met where the day rule accepts the date, or it has no say. -/
def Meets (s : Schedule) (r : Reading) (field : Field) : Prop :=
  if field.isDay then (s.field field).isUnspecified = true ∨ s.AcceptsDay r.date
  else ∃ value ∈ (s.field field).values, (value : Int) = r.part field

theorem exists_cast_eq {n : Nat} {values : List Nat} :
    (∃ value ∈ values, (value : Int) = n) ↔ n ∈ values := by
  constructor
  · rintro ⟨value, hmem, heq⟩
    exact Int.ofNat.inj heq ▸ hmem
  · exact fun hmem => ⟨n, hmem, rfl⟩

/-- **A reading is allowed when every field is met.** -/
theorem allows_iff_forall_meets (hs : s.IsMadeOf yearLimit items) :
    s.Allows r ↔ ∀ field, s.Meets r field := by
  constructor
  · rintro ⟨⟨hsecond, hminute, hhour⟩, hday, hmonth, hyear⟩ field
    cases field with
    | second => exact ⟨_, hsecond, rfl⟩
    | minute => exact ⟨_, hminute, rfl⟩
    | hour => exact ⟨_, hhour, rfl⟩
    | dayOfMonth => exact .inr hday
    | month => exact ⟨_, hmonth, rfl⟩
    | dayOfWeek => exact .inr hday
    | year => exact hyear
  · intro h
    refine ⟨⟨exists_cast_eq.1 (h .second), exists_cast_eq.1 (h .minute),
      exists_cast_eq.1 (h .hour)⟩, ?_, exists_cast_eq.1 (h .month), h .year⟩
    -- One day field accepts the date, or neither has a say.
    rcases h .dayOfMonth with hmonth | hday
    · rcases h .dayOfWeek with hweek | hday
      · rw [hs.field, isUnspecified_valueSet] at hmonth hweek
        rw [AcceptsDay, hs.day, dayRule, if_neg (not_not.2 hmonth), if_neg (not_not.2 hweek)]
        trivial
      · exact hday
    · exact hday

/-! ## Lists -/

theorem unspecified_not_mem_of_list
    (hlist : List.Forall₂ (ListItem yearLimit field) (split ',' text) listed) :
    .unspecified ∉ listed := by
  intro hmem
  obtain ⟨piece, hpiece⟩ := exists_of_forall₂ hlist hmem
  cases hpiece

/-- What a list of days chooses are its values; with a `*` in it, these are all there are. -/
theorem accepts_fieldDayRule_iff {rule : DayRule} {days weekdays : ValueSet} {date : Date} {n : Nat}
    (hlist : List.Forall₂ (ListItem yearLimit field) (split ',' text) listed)
    (hbounds : field.least ≤ n ∧ n ≤ field.greatest yearLimit)
    (hrule : rule.Accepts days weekdays date ↔ n ∈ (valueSet yearLimit field listed).values) :
    (fieldDayRule rule listed).Accepts days weekdays date ↔
      n ∈ (valueSet yearLimit field listed).values := by
  have hfield : IsField yearLimit field text listed := .list hlist
  rw [fieldDayRule_of_list hlist]
  split
  · rename_i hall
    exact iff_of_true trivial ((hfield.mem_valueSet_of_all hall).2 hbounds)
  · exact hrule

/-- **A field that is a list is met by its values.** -/
theorem meets_of_list (hs : s.IsMadeOf yearLimit items)
    (hlist : List.Forall₂ (ListItem yearLimit field) (split ',' text) (items.get field)) :
    s.Meets r field ↔ ∃ value ∈ (s.field field).values, (value : Int) = r.part field := by
  have hleft := unspecified_not_mem_of_list hlist
  have hmark : ¬ (s.field field).isUnspecified = true := by
    rw [hs.field, isUnspecified_valueSet]
    exact hleft
  have hdate := r.valid_date
  cases field with
  | dayOfMonth =>
    have hbounds : 1 ≤ r.date.day ∧ r.date.day ≤ 31 :=
      ⟨hdate.2.2.1, hdate.2.2.2.trans (Calendar.monthLength_le _ _)⟩
    have hday : s.AcceptsDay r.date ↔ r.date.day ∈ (s.field .dayOfMonth).values := by
      rw [AcceptsDay, hs.day, dayRule, if_pos hleft, hs.field .dayOfMonth]
      exact accepts_fieldDayRule_iff hlist hbounds Iff.rfl
    exact (or_iff_right hmark).trans (hday.trans exists_cast_eq.symm)
  | dayOfWeek =>
    have hbounds : 1 ≤ r.date.weekday ∧ r.date.weekday ≤ 7 := by
      have := Date.weekday_eq r.date
      omega
    have hday : s.AcceptsDay r.date ↔ r.date.weekday ∈ (s.field .dayOfWeek).values := by
      rw [AcceptsDay, hs.day, dayRule, if_neg (not_not.2 (hs.unspecified.resolve_right hleft)),
        if_pos hleft, hs.field .dayOfWeek]
      exact accepts_fieldDayRule_iff hlist hbounds Iff.rfl
    exact (or_iff_right hmark).trans (hday.trans exists_cast_eq.symm)
  | second | minute | hour | month | year => exact Iff.rfl

/-- A list that is not about days leaves the day to them. -/
theorem not_isDay_of_unspecified_not_mem (hs : s.IsMadeOf yearLimit items)
    (hfield : .unspecified ∉ items.get field) (hother : .unspecified ∉ items.get other)
    (hne : other ≠ field) (hday : other.isDay = true) : field.isDay = false := by
  have := hs.unspecified
  cases field <;> cases other <;> simp_all [Field.isDay]

/-- The fields apart from a list are met as before when another list takes its place. -/
theorem meets_iff_of_put (hs : s.IsMadeOf yearLimit items)
    (ha : a.IsMadeOf yearLimit (items.put field listed)) (hleft : .unspecified ∉ items.get field)
    (hother : other ≠ field) : s.Meets r other ↔ a.Meets r other := by
  have hset : ∀ other, other ≠ field → s.field other = a.field other := by
    intro other hother
    rw [hs.field, ha.field, Fields.get_put_of_ne hother]
  unfold Meets
  rw [← hset other hother]
  split
  · rename_i hday
    by_cases hmark : .unspecified ∈ items.get other
    · have hsays : (s.field other).isUnspecified = true := by
        rw [hs.field, isUnspecified_valueSet]
        exact hmark
      exact iff_of_true (.inl hsays) (.inl hsays)
    · -- Then the list is not about days, and the day is chosen as before.
      have hnot := not_isDay_of_unspecified_not_mem hs hleft hmark hother hday
      have hmonth : Field.dayOfMonth ≠ field := by
        rintro rfl
        cases hnot
      have hweek : Field.dayOfWeek ≠ field := by
        rintro rfl
        cases hnot
      rw [AcceptsDay, AcceptsDay, hs.day, ha.day, Fields.get_put_of_ne hmonth,
        Fields.get_put_of_ne hweek, hset _ hmonth, hset _ hweek]
  · exact Iff.rfl

/-- **A list of two parts allows what one of them allows.** -/
theorem allows_iff_of_parts {chars chars' : List Char} (hs : s.IsMadeOf yearLimit items)
    (ha : a.IsMadeOf yearLimit (items.put field first))
    (hb : b.IsMadeOf yearLimit (items.put field second))
    (hitems : items.get field = first ++ second)
    (hfirst : List.Forall₂ (ListItem yearLimit field) (split ',' chars) first)
    (hsecond : List.Forall₂ (ListItem yearLimit field) (split ',' chars') second) :
    s.Allows r ↔ a.Allows r ∨ b.Allows r := by
  have hlist : List.Forall₂ (ListItem yearLimit field) (split ',' (chars ++ ',' :: chars'))
      (items.get field) := by
    rw [split_append, hitems]
    exact List.rel_append hfirst hsecond
  have hleft := unspecified_not_mem_of_list hlist
  have hfield : s.Meets r field ↔ a.Meets r field ∨ b.Meets r field := by
    rw [meets_of_list hs hlist, meets_of_list ha (by rwa [Fields.get_put_self]),
      meets_of_list hb (by rwa [Fields.get_put_self]), hs.field, ha.field, hb.field,
      Fields.get_put_self, Fields.get_put_self, hitems]
    simp only [mem_valueSet, List.mem_append, or_and_right, exists_or]
  have hrest : ∀ {t : Schedule} {part}, t.IsMadeOf yearLimit (items.put field part) →
      ((∀ other, other ≠ field → s.Meets r other) ↔ ∀ other, other ≠ field → t.Meets r other) :=
    fun ht => forall_congr' fun _ => forall_congr' fun hother =>
      meets_iff_of_put hs ht hleft hother
  have hsplit : ∀ t : Schedule, (∀ other, t.Meets r other) ↔
      t.Meets r field ∧ ∀ other, other ≠ field → t.Meets r other := by
    refine fun t => ⟨fun h => ⟨h field, fun other _ => h other⟩, fun h other => ?_⟩
    by_cases hother : other = field
    · exact hother ▸ h.1
    · exact h.2 other hother
  rw [allows_iff_forall_meets hs, allows_iff_forall_meets ha, allows_iff_forall_meets hb,
    hsplit s, hsplit a, hsplit b, ← hrest ha, ← hrest hb, hfield, or_and_right]

/-! ## The next reading -/

/-- The next reading is the earlier of two where what is allowed is what either allows. -/
theorem nextReading_eq_merge {limit limit' : Nat} (hs : s.WellFormed yearLimit)
    (ha : a.WellFormed limit) (hb : b.WellFormed limit')
    (h : ∀ r, s.Allows r ↔ a.Allows r ∨ b.Allows r) (start : Reading) :
    s.nextReading start =
      (a.nextReading start).merge Reading.earlier (b.nextReading start) := by
  have hmerge := (nextReading_isFirst_before ha start).merge (nextReading_isFirst_before hb start)
    (fun _ _ _ => Int.le_trans) Reading.earlier_cases
  refine (nextReading_isFirst_before hs start).unique (hmerge.congr fun r => ?_)
    fun _ _ => Reading.le_antisymm
  rw [h r]
  tauto

/-- An expression in which a list is replaced by another field is read, as what its items
make. -/
theorem exists_read_of_put {zone : Zone} {text : String} {fs fs' : Fields Token}
    (hfirst : Field.firstYear ≤ yearLimit) (hlimit : yearLimit ≤ Cursor.greatestNumber)
    (hitems : ∀ field, IsField yearLimit field (fs.get field).chars (items.get field))
    (hone : .unspecified ∈ items.get .dayOfMonth ∨ .unspecified ∈ items.get .dayOfWeek)
    (hleft : .unspecified ∉ items.get field) (hfs' : fieldTokens (normalize text.toList) = .ok fs')
    (hfield : IsField yearLimit field (fs'.get field).chars listed)
    (hothers : ∀ other, other ≠ field → (fs'.get other).chars = (fs.get other).chars) :
    ∃ a, read yearLimit zone text = .ok a ∧ a.IsMadeOf yearLimit (items.put field listed) := by
  have hkept : ∀ other, .unspecified ∈ items.get other →
      .unspecified ∈ (items.put field listed).get other := by
    intro other hmem
    have hother : other ≠ field := by
      rintro rfl
      exact hleft hmem
    rwa [Fields.get_put_of_ne hother]
  have hone' := hone.imp (hkept .dayOfMonth) (hkept .dayOfWeek)
  refine ⟨_, (ofNormalized_eq_ok hfirst hlimit).2
    ⟨fs', items.put field listed, hfs', fun other => ?_, hone', rfl⟩,
    fun other => field_mk_map .., rfl, hone'⟩
  by_cases hother : other = field
  · rw [hother, Fields.get_put_self]
    exact hfield
  · rw [hothers other hother, Fields.get_put_of_ne hother]
    exact hitems other

/-- **The next reading of a list is the earlier one of its parts.** Two expressions that have
a part of the list in its place, and are the same otherwise, are accepted as well; from
wherever the search starts, the earlier of their answers is that of the list, and there is
none when neither has one. -/
theorem nextReading_of_list {yearLimit : UInt32} {zone : Zone} {text leftText rightText : String}
    {before after : List (List Char)} {left right : List Char}
    (h : read yearLimit.toNat zone text = .ok s)
    (hlist : fieldTexts (normalize text.toList) = before ++ (left ++ ',' :: right) :: after)
    (hleft : fieldTexts (normalize leftText.toList) = before ++ left :: after)
    (hright : fieldTexts (normalize rightText.toList) = before ++ right :: after) :
    ∃ a b, read yearLimit.toNat zone leftText = .ok a ∧
      read yearLimit.toNat zone rightText = .ok b ∧ ∀ start, s.nextReading start =
        (a.nextReading start).merge Reading.earlier (b.nextReading start) := by
  have hlimit : yearLimit.toNat ≤ Cursor.greatestNumber := Nat.le_of_lt_succ yearLimit.toNat_lt
  have hfirst := firstYear_le_of_read h
  obtain ⟨fs, items, hfs, hitems, hone, rfl⟩ := (ofNormalized_eq_ok hfirst hlimit).1 h
  obtain ⟨field, hchars, hparts⟩ := exists_field_of_fieldTexts hfs hlist
  obtain ⟨first, second, hsplit, hleftList, hrightList⟩ := (hchars ▸ hitems field).exists_of_append
  have hnone : .unspecified ∉ items.get field := by
    rw [hsplit, List.mem_append, not_or]
    exact ⟨unspecified_not_mem_of_list hleftList, unspecified_not_mem_of_list hrightList⟩
  have hpart : ∀ {part : String} {chars : List Char} {listed : List Item},
      fieldTexts (normalize part.toList) = before ++ chars :: after →
      List.Forall₂ (ListItem yearLimit.toNat field) (split ',' chars) listed →
      ∃ p, read yearLimit.toNat zone part = .ok p ∧
        p.IsMadeOf yearLimit.toNat (items.put field listed) := by
    intro part chars listed hpart hlisted
    obtain ⟨fs', hfs', hchars', hothers⟩ := hparts _ _ hpart
    refine exists_read_of_put hfirst hlimit hitems hone hnone hfs' ?_ hothers
    rw [hchars']
    exact .list hlisted
  obtain ⟨a, ha, hmadeLeft⟩ := hpart hleft hleftList
  obtain ⟨b, hb, hmadeRight⟩ := hpart hright hrightList
  refine ⟨a, b, ha, hb, nextReading_eq_merge (wellFormed_of_read hlimit h)
    (wellFormed_of_read hlimit ha) (wellFormed_of_read hlimit hb) fun r => ?_⟩
  exact allows_iff_of_parts ⟨fun field => field_mk_map .., rfl, hone⟩ hmadeLeft hmadeRight hsplit
    hleftList hrightList

/-- The answer is the one of the part that is written last, which comes first. -/
theorem nextReading_of_list_leapDays :
    fieldTexts (normalize "0 0 0 29,28 feb ? 2028".toList) =
        [['0'], ['0'], ['0']] ++ (['2', '9'] ++ ',' :: ['2', '8']) ::
          ["FEB".toList, ['?'], "2028".toList] ∧
      fieldTexts (normalize "0 0 0 29 feb ? 2028".toList) =
        [['0'], ['0'], ['0']] ++ ['2', '9'] :: ["FEB".toList, ['?'], "2028".toList] ∧
      fieldTexts (normalize "0 0 0 28 feb ? 2028".toList) =
        [['0'], ['0'], ['0']] ++ ['2', '8'] :: ["FEB".toList, ['?'], "2028".toList] ∧
      ∃ s a b, read (2125 : UInt32).toNat .utc "0 0 0 29,28 feb ? 2028" = .ok s ∧
        read (2125 : UInt32).toNat .utc "0 0 0 29 feb ? 2028" = .ok a ∧
        read (2125 : UInt32).toNat .utc "0 0 0 28 feb ? 2028" = .ok b ∧
        (∀ start, s.nextReading start =
          (a.nextReading start).merge Reading.earlier (b.nextReading start)) ∧
        s.nextReading (.ofParts 20269 18 0 0) = some (.ofParts 21242 0 0 0) ∧
        a.nextReading (.ofParts 20269 18 0 0) = some (.ofParts 21243 0 0 0) := by
  have hlist : fieldTexts (normalize "0 0 0 29,28 feb ? 2028".toList) =
      [['0'], ['0'], ['0']] ++ (['2', '9'] ++ ',' :: ['2', '8']) ::
        ["FEB".toList, ['?'], "2028".toList] := by decide +kernel
  have hleft : fieldTexts (normalize "0 0 0 29 feb ? 2028".toList) =
      [['0'], ['0'], ['0']] ++ ['2', '9'] :: ["FEB".toList, ['?'], "2028".toList] := by
    decide +kernel
  have hright : fieldTexts (normalize "0 0 0 28 feb ? 2028".toList) =
      [['0'], ['0'], ['0']] ++ ['2', '8'] :: ["FEB".toList, ['?'], "2028".toList] := by
    decide +kernel
  obtain ⟨s, hs, hsooner⟩ := exists_of_bind_eq_some
    (by decide +kernel : (read (2125 : UInt32).toNat .utc "0 0 0 29,28 feb ? 2028").toOption.bind
      (fun s => s.nextReading (.ofParts 20269 18 0 0)) = some (.ofParts 21242 0 0 0))
  obtain ⟨a, b, ha, hb, hnext⟩ := nextReading_of_list hs hlist hleft hright
  have hlater : (read (2125 : UInt32).toNat .utc "0 0 0 29 feb ? 2028").toOption.bind
      (fun a => a.nextReading (.ofParts 20269 18 0 0)) = some (.ofParts 21243 0 0 0) := by
    decide +kernel
  rw [ha] at hlater
  exact ⟨hlist, hleft, hright, s, a, b, hs, ha, hb, hnext, hsooner, hlater⟩

end Schedule

end CronSchedule
