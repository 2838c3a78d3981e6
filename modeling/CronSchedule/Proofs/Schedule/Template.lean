import CronSchedule.Proofs.Expression.Meaning
import CronSchedule.Proofs.Schedule.Place

/-!
# Fields are judged one by one

A field is judged on its own by putting its text into an expression that is valid without it
(`template`, `judge`). Reading that expression comes down to reading the one field
(`judge_eq`), and the judgement of a whole text to those of its fields (`read_of_judge`): the
first one that is wrong is reported, and only when none is wrong do the two day fields have
to agree.
-/

namespace CronSchedule

namespace Schedule

open Expression Text

variable {yearLimit : Nat} {zone : Zone} {field other : Field} {chars text : List Char}
variable {error : ExpressionError} {s : Schedule} {items : List Item} {fs : Fields Token}

/-! ## The template -/

/-- The texts of an expression that allows midnight on any day. -/
def template : Fields (List Char) := ⟨['0'], ['0'], ['0'], ['?'], ['*'], ['?'], ['*']⟩

/-- The items that stand in it. -/
def templateItems : Fields (List Item) :=
  ⟨[.value 0], [.value 0], [.value 0], [.unspecified], [.all], [.unspecified], [.all]⟩

/-- The template with the text of one field put in. -/
def inTemplate (field : Field) (chars : List Char) : List Char :=
  [' '].intercalate (Field.all.map (template.put field chars).get)

/-- Where a field begins in the template. -/
def templateStart (field : Field) : Nat :=
  2 * Field.all.idxOf field

/-- **A field judged on its own.** -/
def judge (yearLimit : Nat) (zone : Zone) (field : Field) (chars : List Char) :
    Except ExpressionError Schedule :=
  ofNormalized yearLimit zone (inTemplate field chars)

example : inTemplate .year ['*'] = "0 0 0 ? * ? *".toList := by decide

theorem readItems_template (yearLimit offset : Nat) (field : Field) :
    readItems yearLimit field ⟨offset, template.get field⟩ = .ok (templateItems.get field) := by
  cases field <;> rfl

/-- The tokens of the template stay the same, apart from that of the field. -/
theorem fieldTokens_inTemplate (field : Field) (hne : chars ≠ []) (hspace : ' ' ∉ chars) :
    ∃ fs, fieldTokens (inTemplate field chars) = .ok fs ∧
      fs.get field = ⟨templateStart field, chars⟩ ∧
      ∀ other, other ≠ field → (fs.get other).chars = template.get other := by
  have hwords : ∀ other, (template.put field chars).get other ≠ [] ∧
      ' ' ∉ (template.put field chars).get other := by
    intro other
    by_cases hother : other = field
    · rw [hother, Fields.get_put_self]
      exact ⟨hne, hspace⟩
    · rw [Fields.get_put_of_ne hother]
      cases other <;> decide
  obtain ⟨fs, hfs, hmap⟩ := fieldTokens_intercalate hwords
  refine ⟨fs, hfs, ?_, fun other hother => ?_⟩
  · have hget := congrArg (·[Field.all.idxOf field]?) hmap
    cases field <;> exact Option.some.inj hget
  · rw [chars_of_map_get hmap, Fields.get_put_of_ne hother]

section

variable (hfirst : Field.firstYear ≤ yearLimit) (hlimit : yearLimit ≤ Cursor.greatestNumber)
include hfirst hlimit

/-- **What a field is judged to be** is what its text is read as. -/
theorem judge_eq (hne : chars ≠ []) (hspace : ' ' ∉ chars) : judge yearLimit zone field chars =
    (readItems yearLimit field ⟨templateStart field, chars⟩).map fun items =>
      ⟨String.ofList (inTemplate field chars),
        (templateItems.put field items).map (valueSet yearLimit),
        dayRule (templateItems.put field items).dayOfMonth
          (templateItems.put field items).dayOfWeek, zone⟩ := by
  obtain ⟨fs, hfs, hfield, hothers⟩ := fieldTokens_inTemplate field hne hspace
  have hread : ∀ other, other ≠ field →
      readItems yearLimit other (fs.get other) = .ok (templateItems.get other) := by
    intro other hother
    rw [← readItems_template yearLimit (fs.get other).offset, ← hothers other hother]
  cases hitems : readItems yearLimit field ⟨templateStart field, chars⟩ with
  | error error =>
    obtain ⟨earlier, later, hall, hfresh⟩ :
        ∃ earlier later, Field.all = earlier ++ field :: later ∧ field ∉ earlier :=
      List.eq_append_cons_of_mem field.mem_all
    have hfails : fs.mapExcept (readItems yearLimit) = .error error := by
      refine Fields.mapExcept_eq_error.2 ⟨earlier, field, later, hall, fun other hother => ?_, ?_⟩
      · exact ⟨_, hread other fun heq => hfresh (heq ▸ hother)⟩
      · rw [hfield, hitems]
    simp only [judge, ofNormalized, hfs, ok_bind, hfails]
    rfl
  | ok items =>
    refine (ofNormalized_eq_ok hfirst hlimit).2
      ⟨fs, templateItems.put field items, hfs, fun other => ?_, ?_, rfl⟩
    · rw [← readItems_eq_ok hfirst hlimit]
      by_cases hother : other = field
      · rw [hother, hfield, hitems, Fields.get_put_self]
      · rw [hread other hother, Fields.get_put_of_ne hother]
    · -- Only one of the day fields is replaced.
      cases field
      case dayOfMonth => exact .inr List.mem_cons_self
      all_goals exact .inl List.mem_cons_self

/-- The texts of the template are accepted, so nothing but the field itself can fail. -/
theorem exists_judge_template (zone : Zone) (field : Field) :
    ∃ s, judge yearLimit zone field (template.get field) = .ok s := by
  have hword : template.get field ≠ [] ∧ ' ' ∉ template.get field := by cases field <;> decide
  rw [judge_eq hfirst hlimit hword.1 hword.2, readItems_template]
  exact ⟨_, rfl⟩

/-- **A field that fails on its own** fails wherever it stands, at the same place in it. -/
theorem exists_place_of_judge (hne : chars ≠ []) (hspace : ' ' ∉ chars) (offset : Nat)
    (h : judge yearLimit zone field chars = .error error) :
    ∃ place, error.position = templateStart field + place ∧
      readItems yearLimit field ⟨offset, chars⟩ = .error ⟨error.fault, offset + place⟩ := by
  rw [judge_eq hfirst hlimit hne hspace] at h
  cases hread : readItems yearLimit field ⟨templateStart field, chars⟩ with
  | error error' =>
    rw [hread] at h
    cases h
    exact readItems_error_moved offset hread
  | ok items =>
    rw [hread] at h
    cases h

/-- **A field that is accepted on its own** is read wherever it stands, with the items that
the judgement is made from. -/
theorem exists_items_of_judge (hne : chars ≠ []) (hspace : ' ' ∉ chars) (offset : Nat)
    (h : judge yearLimit zone field chars = .ok s) :
    ∃ items, readItems yearLimit field ⟨offset, chars⟩ = .ok items ∧
      s.field field = valueSet yearLimit field items ∧
      s.day = dayRule (templateItems.put field items).dayOfMonth
        (templateItems.put field items).dayOfWeek := by
  rw [judge_eq hfirst hlimit hne hspace] at h
  cases hread : readItems yearLimit field ⟨templateStart field, chars⟩ with
  | error error =>
    rw [hread] at h
    cases h
  | ok items =>
    rw [hread] at h
    cases h
    refine ⟨items, readItems_ok_moved offset hread, ?_, rfl⟩
    rw [field_mk_map, Fields.get_put_self]

end

/-! ## The whole text -/

/-- The day field that is not `?` chooses the day as it does on its own. -/
theorem dayRule_eq_of_either (days weekdays : List Item) : dayRule days weekdays =
    if .unspecified ∉ days then dayRule days [.unspecified]
    else if .unspecified ∉ weekdays then dayRule [.unspecified] weekdays else .any := by
  unfold dayRule
  split
  · rfl
  · by_cases hleft : .unspecified ∈ weekdays <;> simp [hleft]

section

variable (hfirst : Field.firstYear ≤ yearLimit) (hlimit : yearLimit ≤ Cursor.greatestNumber)
include hfirst hlimit

/-- The first field that fails on its own decides. -/
theorem ofNormalized_of_judge_error {earlier later : List Field}
    (hfs : fieldTokens text = .ok fs) (hall : Field.all = earlier ++ field :: later)
    (hearlier : ∀ other ∈ earlier, ∃ s, judge yearLimit zone other (fs.get other).chars = .ok s)
    (h : judge yearLimit zone field (fs.get field).chars = .error error) :
    ∃ place, error.position = templateStart field + place ∧
      ofNormalized yearLimit zone text = .error ⟨error.fault, (fs.get field).offset + place⟩ := by
  have hword := isWord_of_fieldTokens hfs
  obtain ⟨place, hposition, hread⟩ := exists_place_of_judge hfirst hlimit (hword field).1
    (hword field).2 (fs.get field).offset h
  have hfails : fs.mapExcept (readItems yearLimit) =
      .error ⟨error.fault, (fs.get field).offset + place⟩ := by
    refine Fields.mapExcept_eq_error.2 ⟨earlier, field, later, hall, fun other hother => ?_, hread⟩
    obtain ⟨s, hs⟩ := hearlier other hother
    obtain ⟨items, hitems, -⟩ := exists_items_of_judge hfirst hlimit (hword other).1
      (hword other).2 (fs.get other).offset hs
    exact ⟨items, hitems⟩
  refine ⟨place, hposition, ?_⟩
  simp only [ofNormalized, hfs, ok_bind, hfails]
  rfl

/-- When no field fails on its own, the two day fields have to agree. -/
theorem ofNormalized_of_judge_ok (hfs : fieldTokens text = .ok fs) {judged : Field → Schedule}
    (h : ∀ field, judge yearLimit zone field (fs.get field).chars = .ok (judged field)) :
    if fs.dayOfMonth.chars ≠ ['?'] ∧ fs.dayOfWeek.chars ≠ ['?'] then
      ofNormalized yearLimit zone text = .error ⟨.bothDayFields, fs.dayOfWeek.offset⟩
    else ∃ s, ofNormalized yearLimit zone text = .ok s ∧
      (∀ field, s.field field = (judged field).field field) ∧
      s.day = if fs.dayOfMonth.chars ≠ ['?'] then (judged .dayOfMonth).day
        else if fs.dayOfWeek.chars ≠ ['?'] then (judged .dayOfWeek).day else .any := by
  have hword := isWord_of_fieldTokens hfs
  have hread := fun field => exists_items_of_judge hfirst hlimit (hword field).1
    (hword field).2 (fs.get field).offset (h field)
  choose itemsOf hitems hset hday using hread
  have hfield : ∀ field, IsField yearLimit field (fs.get field).chars (itemsOf field) :=
    fun field => (readItems_eq_ok hfirst hlimit).1 (hitems field)
  have hmonth : .unspecified ∈ itemsOf .dayOfMonth ↔ fs.dayOfMonth.chars = ['?'] :=
    (hfield .dayOfMonth).unspecified_iff hfirst hlimit rfl
  have hweek : .unspecified ∈ itemsOf .dayOfWeek ↔ fs.dayOfWeek.chars = ['?'] :=
    (hfield .dayOfWeek).unspecified_iff hfirst hlimit rfl
  have hfield' : ∀ field, IsField yearLimit field (fs.get field).chars
      ((Fields.ofFunction itemsOf).get field) := by
    intro field
    rw [Fields.get_ofFunction]
    exact hfield field
  split
  · rename_i hboth
    have hmap : fs.mapExcept (readItems yearLimit) = .ok (.ofFunction itemsOf) := by
      refine Fields.mapExcept_eq_ok.2 fun field => ?_
      rw [Fields.get_ofFunction]
      exact hitems field
    simp only [ofNormalized, hfs, ok_bind, hmap, checkValues_eq_ok hfirst hfield']
    rw [if_pos ⟨hmonth.not.2 hboth.1, hweek.not.2 hboth.2⟩]
    rfl
  · rename_i hone
    have hleft : .unspecified ∈ itemsOf .dayOfMonth ∨ .unspecified ∈ itemsOf .dayOfWeek := by
      rw [hmonth, hweek]
      tauto
    refine ⟨_, (ofNormalized_eq_ok hfirst hlimit).2 ⟨fs, _, hfs, hfield', hleft, rfl⟩,
      fun field => ?_, ?_⟩
    · rw [field_mk_map, Fields.get_ofFunction, hset]
    · show dayRule (itemsOf .dayOfMonth) (itemsOf .dayOfWeek) = _
      rw [hday .dayOfMonth, hday .dayOfWeek]
      refine (dayRule_eq_of_either _ _).trans ?_
      simp only [hmonth, hweek]
      rfl

end

/-- **The fields of a text are judged one by one, in order.** The first one that fails on its
own is what is reported, at the same place in the field. When none does, the text fails just
when neither day field is `?`; otherwise every field has the set that it has on its own, and
the day is chosen as the day field that is not `?` chooses it. A year that is left out is
judged as the `*` of the template. -/
theorem read_of_judge {yearLimit : UInt32} (hfirst : Field.firstYear ≤ yearLimit.toNat)
    (zone : Zone) {text : String} (hcount : (fieldTexts (normalize text.toList)).length = 6 ∨
      (fieldTexts (normalize text.toList)).length = 7) :
    ∃ fs, fieldTokens (normalize text.toList) = .ok fs ∧
      (∀ earlier field later error, Field.all = earlier ++ field :: later →
        (∀ other ∈ earlier, ∃ s, judge yearLimit.toNat zone other (fs.get other).chars = .ok s) →
        judge yearLimit.toNat zone field (fs.get field).chars = .error error →
        ∃ place, error.position = templateStart field + place ∧
          read yearLimit.toNat zone text =
            .error ⟨error.fault, (fs.get field).offset + place⟩) ∧
      ∀ judged : Field → Schedule,
        (∀ field, judge yearLimit.toNat zone field (fs.get field).chars = .ok (judged field)) →
        if fs.dayOfMonth.chars ≠ ['?'] ∧ fs.dayOfWeek.chars ≠ ['?'] then
          read yearLimit.toNat zone text = .error ⟨.bothDayFields, fs.dayOfWeek.offset⟩
        else ∃ s, read yearLimit.toNat zone text = .ok s ∧
          (∀ field, s.field field = (judged field).field field) ∧
          s.day = if fs.dayOfMonth.chars ≠ ['?'] then (judged .dayOfMonth).day
            else if fs.dayOfWeek.chars ≠ ['?'] then (judged .dayOfWeek).day else .any := by
  have hlimit : yearLimit.toNat ≤ Cursor.greatestNumber := Nat.le_of_lt_succ yearLimit.toNat_lt
  obtain ⟨fs, hfs⟩ := exists_fieldTokens.2 hcount
  exact ⟨fs, hfs, fun _ _ _ _ hall hearlier herror =>
      ofNormalized_of_judge_error hfirst hlimit hfs hall hearlier herror,
    fun _ hjudged => ofNormalized_of_judge_ok hfirst hlimit hfs hjudged⟩

/-- A minute out of range in front of a wrong weekday, and a day in both day fields: the
minute is reported, one byte further on than in the template. And every field of the second
text is right on its own, and one of the day fields is `?`, so each has the set that it has in
the template, and the second Friday is the day. -/
theorem read_of_judge_lateMinute :
    (Field.firstYear ≤ (2125 : UInt32).toNat ∧
      (fieldTexts (normalize "10  7,60 0 1 * mon,x".toList)).length = 6 ∧
      judge (2125 : UInt32).toNat .utc .minute "7,60".toList =
        .error ⟨.outOfRange .minute 2125, 4⟩ ∧
      read (2125 : UInt32).toNat .utc "10  7,60 0 1 * mon,x" =
        .error ⟨.outOfRange .minute 2125, 5⟩) ∧
    (fieldTexts (normalize "0 0/30 8 ? jan fri#2 2030".toList)).length = 7 ∧
      ∃ s, read (2125 : UInt32).toNat .utc "0 0/30 8 ? jan fri#2 2030" = .ok s ∧
        (∀ field, (s.field field).values =
          (⟨[0], [0, 30], [8], [], [1], [6], [2030]⟩ : Fields (List Nat)).get field) ∧
        s.day = .nthWeekday 6 2 := by
  have hfirst : Field.firstYear ≤ (2125 : UInt32).toNat := by decide
  refine ⟨?_, ?_⟩
  · have hcount : (fieldTexts (normalize "10  7,60 0 1 * mon,x".toList)).length = 6 := by
      decide +kernel
    have hminute : judge (2125 : UInt32).toNat .utc .minute "7,60".toList =
        .error ⟨.outOfRange .minute 2125, 4⟩ := by decide +kernel
    obtain ⟨s, hsecond, -⟩ := exists_of_bind_eq_some
      (by decide +kernel : (judge (2125 : UInt32).toNat .utc .second "10".toList).toOption.bind
        (fun s => some s.day) = some .any)
    obtain ⟨fs, hfs, hfails, -⟩ := read_of_judge hfirst .utc (.inl hcount)
    have htokens : (fieldTokens (normalize "10  7,60 0 1 * mon,x".toList)).map
        (fun fs => (fs.second.chars, fs.minute)) = .ok ("10".toList, ⟨3, "7,60".toList⟩) := by
      decide +kernel
    rw [hfs] at htokens
    obtain ⟨htext, htoken⟩ := Prod.mk.inj (Except.ok.inj htokens)
    have hchars : (fs.get .minute).chars = "7,60".toList := congrArg Token.chars htoken
    obtain ⟨place, hplace, hread⟩ := hfails [.second] .minute _ _ rfl
      (fun other hother => ⟨s, List.mem_singleton.1 hother ▸ htext ▸ hsecond⟩) (hchars ▸ hminute)
    obtain rfl : place = 2 := (Nat.add_left_cancel hplace).symm
    refine ⟨hfirst, hcount, hminute, hread.trans ?_⟩
    show Except.error (⟨_, fs.minute.offset + 2⟩ : ExpressionError) = _
    rw [htoken]
  · have hcount : (fieldTexts (normalize "0 0/30 8 ? jan fri#2 2030".toList)).length = 7 := by
      decide +kernel
    obtain ⟨fs, hfs, -, haccepts⟩ := read_of_judge hfirst .utc (.inr hcount)
    have htokens : (fieldTokens (normalize "0 0/30 8 ? jan fri#2 2030".toList)).map
        (fun fs => fs.map fun _ token => token.chars) = .ok ⟨['0'], "0/30".toList, ['8'], ['?'], "JAN".toList,
          "FRI#2".toList, "2030".toList⟩ := by
      decide +kernel
    rw [hfs] at htokens
    have hchars := Except.ok.inj htokens
    have hjudged : ∀ field, ∃ s,
        judge (2125 : UInt32).toNat .utc field (fs.get field).chars = .ok s ∧
        (s.field field).values =
          (⟨[0], [0, 30], [8], [], [1], [6], [2030]⟩ : Fields (List Nat)).get field ∧
        (field = .dayOfWeek → s.day = .nthWeekday 6 2) := by
      intro field
      have htext : (fs.get field).chars = (⟨['0'], "0/30".toList, ['8'], ['?'], "JAN".toList,
          "FRI#2".toList, "2030".toList⟩ : Fields (List Char)).get field := by
        rw [← hchars, Fields.get_map]
      rw [htext]
      cases field <;> exact exists_of_any (by decide +kernel)
    choose judged hjudged hvalues hday using hjudged
    have haccepts := haccepts judged hjudged
    have hmonth : fs.dayOfMonth.chars = ['?'] := congrArg Fields.dayOfMonth hchars
    have hweek : fs.dayOfWeek.chars = "FRI#2".toList := congrArg Fields.dayOfWeek hchars
    rw [if_neg (fun h => h.1 hmonth)] at haccepts
    obtain ⟨s, hs, hfield, hrule⟩ := haccepts
    refine ⟨hcount, s, hs, fun field => ?_, ?_⟩
    · rw [hfield, hvalues]
    · rw [hrule, if_neg (fun h => h hmonth), if_pos (by rw [hweek]; decide), hday .dayOfWeek rfl]

end Schedule

end CronSchedule
