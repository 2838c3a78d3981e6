import CronSchedule.Proofs.Expression.Tokens
import CronSchedule.Proofs.Expression.Values

/-!
# Reading an expression

`Schedule.read` accepts a text exactly when its normalized form is in the
grammar (`exists_read_iff`), and what it makes of the text is well formed
(`wellFormed_of_read`). Both follow from `ofNormalized_eq_ok`, which says what
the schedule of an expression is: every field in the grammar, one of the day
fields `?`, and no check on the values that could still fail.
-/

namespace CronSchedule

theorem exists_of_bind_eq_some {ε α β : Type} {x : Except ε α} {f : α → Option β} {b : β}
    (h : x.toOption.bind f = some b) : ∃ a, x = .ok a ∧ f a = some b := by
  cases x with
  | error e => cases h
  | ok a => exact ⟨a, rfl, h⟩

theorem exists_of_any {ε α : Type} {x : Except ε α} {P : α → Prop} [DecidablePred P]
    (h : x.toOption.any (fun a => decide (P a)) = true) : ∃ a, x = .ok a ∧ P a := by
  cases x with
  | error e => cases h
  | ok a => exact ⟨a, rfl, of_decide_eq_true h⟩

namespace Fields

variable {α β ε : Type} {fields : Fields α} {field other : Field} {a : α}

/-- The same, with another thing for one field. -/
def put (fields : Fields α) (field : Field) (a : α) : Fields α :=
  ofFunction fun other => if other = field then a else fields.get other

@[simp] theorem get_put_self : (fields.put field a).get field = a := by
  simp [put]

theorem get_put_of_ne (h : other ≠ field) : (fields.put field a).get other = fields.get other := by
  simp [put, h]

theorem ext_get {a b : Fields α} (h : ∀ field, a.get field = b.get field) : a = b := by
  obtain ⟨_, _, _, _, _, _, _⟩ := a
  obtain ⟨_, _, _, _, _, _, _⟩ := b
  simp only [mk.injEq]
  exact ⟨h .second, h .minute, h .hour, h .dayOfMonth, h .month, h .dayOfWeek, h .year⟩

/-- A step for each field succeeds when every one of them does. -/
theorem mapExcept_eq_ok {f : Field → α → Except ε β} {fields : Fields α} {results : Fields β} :
    fields.mapExcept f = .ok results ↔
      ∀ field, f field (fields.get field) = .ok (results.get field) := by
  simp only [mapExcept, bind_eq_ok, pure_eq_ok]
  constructor
  · rintro ⟨second, hsecond, minute, hminute, hour, hhour, dayOfMonth, hdom, month, hmonth,
      dayOfWeek, hdow, year, hyear, rfl⟩ field
    cases field <;> assumption
  · intro h
    exact ⟨_, h .second, _, h .minute, _, h .hour, _, h .dayOfMonth, _, h .month,
      _, h .dayOfWeek, _, h .year, rfl⟩

/-- It fails at the first field for which it does. -/
theorem mapExcept_eq_error {f : Field → α → Except ε β} {fields : Fields α} {e : ε} :
    fields.mapExcept f = .error e ↔ ∃ earlier field later, Field.all = earlier ++ field :: later ∧
      (∀ other ∈ earlier, ∃ b, f other (fields.get other) = .ok b) ∧
      f field (fields.get field) = .error e := by
  rw [← Expression.mapM_eq_error]
  simp [mapExcept, Field.all, bind_eq_error, Fields.get, pure, Except.pure]

end Fields

namespace Expression

open Text

variable {yearLimit : Nat} {field : Field} {text : List Char} {items : List Item}

/-! ## The day fields -/

/-- A day field leaves the day to the other one when it is `?`, and only then. -/
theorem IsField.unspecified_iff (hfirst : Field.firstYear ≤ yearLimit)
    (hlimit : yearLimit ≤ Cursor.greatestNumber) (hday : field.isDay = true)
    (h : IsField yearLimit field text items) : .unspecified ∈ items ↔ text = ['?'] := by
  constructor
  · intro hmem
    rcases h with hlone | hlist
    · obtain rfl := List.mem_singleton.1 hmem
      cases hlone
      rfl
    · obtain ⟨piece, hpiece⟩ := exists_of_forall₂ hlist hmem
      cases hpiece
  · rintro rfl
    -- Reading gives one result, and the grammar has `?` alone for this text.
    have hlone : IsField yearLimit field ['?'] [.unspecified] := .lone (.unspecified hday)
    have hread : ∀ items, readItems yearLimit field ⟨0, ['?']⟩ = .ok items ↔
        IsField yearLimit field ['?'] items := fun _ => readItems_eq_ok hfirst hlimit
    have hsame := Except.ok.inj (((hread _).2 h).symm.trans ((hread _).2 hlone))
    simp [hsame]

/-- The same in terms of what stands in the text. -/
theorem unspecified_iff_mem (hfirst : Field.firstYear ≤ yearLimit)
    (hlimit : yearLimit ≤ Cursor.greatestNumber) {fs : Fields Token}
    (hfs : fieldTokens text = .ok fs) (hday : field.isDay = true)
    (h : IsField yearLimit field (fs.get field).chars items) :
    .unspecified ∈ items ↔ (field, ['?']) ∈ Field.all.zip (fieldTexts text) := by
  obtain ⟨hpresent, hzip⟩ := fieldTokens_spec hfs
  rw [h.unspecified_iff hfirst hlimit hday]
  constructor
  · intro hchars
    rcases hpresent field with hmem | ⟨rfl, -⟩
    · rwa [hchars] at hmem
    · simp [Field.isDay] at hday
  · exact fun hmem => (hzip field _ hmem).symm

end Expression

namespace Schedule

open Expression

variable {yearLimit : Nat} {zone : Zone} {text : List Char} {s : Schedule}

/-- The set of a field is made of the items that stand in it. -/
theorem field_mk_map (text : String) (items : Fields (List Item)) (day : DayRule) (zone : Zone)
    (field : Field) : Schedule.field ⟨text, items.map (valueSet yearLimit), day, zone⟩ field =
      valueSet yearLimit field (items.get field) :=
  Fields.get_map ..

section

variable (hfirst : Field.firstYear ≤ yearLimit) (hlimit : yearLimit ≤ Cursor.greatestNumber)

include hfirst in
/-- A field of the grammar never lacks values, unless it counts from the end of
the month. -/
theorem checkValues_eq_ok {fs : Fields Token} {items : Fields (List Item)}
    (h : ∀ field, IsField yearLimit field (fs.get field).chars (items.get field)) :
    checkValues fs (fieldDayRule .monthDays items.dayOfMonth)
      (items.map (valueSet yearLimit)) = .ok () := by
  unfold checkValues
  rw [List.find?_eq_none.2]
  rintro ⟨field, set⟩ hmem hempty
  obtain ⟨_, -, heq⟩ := List.mem_map.1 hmem
  obtain ⟨rfl, rfl⟩ := Prod.mk.inj heq
  rw [Fields.get_map, Bool.and_eq_true] at hempty
  obtain ⟨rfl, hlast⟩ := (h _).not_isEmpty hfirst hempty.1
  have hnot := hempty.2
  rw [show fieldDayRule .monthDays items.dayOfMonth =
    fieldDayRule .monthDays (items.get .dayOfMonth) from rfl, hlast] at hnot
  simp at hnot

include hfirst hlimit in
/-- **The schedule of a normalized text**: its fields are in the grammar, and one
of the two day fields is left to the other. -/
theorem ofNormalized_eq_ok : ofNormalized yearLimit zone text = .ok s ↔
    ∃ (fs : Fields Token) (items : Fields (List Item)), fieldTokens text = .ok fs ∧
      (∀ field, IsField yearLimit field (fs.get field).chars (items.get field)) ∧
      (.unspecified ∈ items.dayOfMonth ∨ .unspecified ∈ items.dayOfWeek) ∧
      s = ⟨String.ofList text, items.map (valueSet yearLimit),
        dayRule items.dayOfMonth items.dayOfWeek, zone⟩ := by
  -- The last check asks for one of the day fields to be left to the other.
  have hguard : ∀ {c : Prop} [Decidable c] {error : ExpressionError} {result : Schedule},
      ((if c then Except.error error >>= fun (_ : Unit) => pure result else pure result) = .ok s ↔
        ¬ c ∧ s = result) := by
    intro c _ error result
    split <;> simp [*, pure_eq_ok]
  simp only [ofNormalized, bind_eq_ok, Fields.mapExcept_eq_ok, readItems_eq_ok hfirst hlimit,
    hguard, not_and_or, not_not]
  refine exists_congr fun fs => ?_
  constructor
  · rintro ⟨hfs, items, hitems, -, -, hday, hs⟩
    exact ⟨items, hfs, hitems, hday, hs⟩
  · rintro ⟨items, hfs, hitems, hday, hs⟩
    exact ⟨hfs, items, hitems, (), checkValues_eq_ok hfirst hitems, hday, hs⟩

end

/-! ## What is accepted -/

/-- **A text is accepted exactly when its normalized form is an expression** whose
years end with `yearLimit`. -/
theorem exists_read_iff (yearLimit : UInt32) (zone : Zone) (text : String)
    (hfirst : Field.firstYear ≤ yearLimit.toNat) :
    (∃ s, read yearLimit.toNat zone text = .ok s) ↔
      IsExpression yearLimit.toNat (normalize text.toList) := by
  have hlimit : yearLimit.toNat ≤ Cursor.greatestNumber := Nat.le_of_lt_succ yearLimit.toNat_lt
  simp only [read, ofNormalized_eq_ok hfirst hlimit]
  constructor
  · rintro ⟨s, fs, items, hfs, hitems, hday, -⟩
    obtain ⟨hfields, hzip⟩ := fieldTokens_spec hfs
    refine ⟨exists_fieldTokens.1 ⟨fs, hfs⟩, fun field chars hmem => ?_, ?_⟩
    · rw [hzip field chars hmem]
      exact ⟨_, hitems field⟩
    · exact hday.imp (unspecified_iff_mem hfirst hlimit hfs rfl (hitems .dayOfMonth)).1
        (unspecified_iff_mem hfirst hlimit hfs rfl (hitems .dayOfWeek)).1
  · rintro ⟨hcount, hfields, hday⟩
    obtain ⟨fs, hfs⟩ := exists_fieldTokens.2 hcount
    obtain ⟨hpresent, hzip⟩ := fieldTokens_spec hfs
    -- A year that is not in the text is `*`.
    have hall : ∀ field, ∃ items, IsField yearLimit.toNat field (fs.get field).chars items := by
      intro field
      rcases hpresent field with hmem | ⟨rfl, hyear⟩
      · exact hfields field _ hmem
      · rw [hyear]
        exact ⟨[.all], .list (.cons .all .nil)⟩
    choose items hitems using hall
    refine ⟨_, fs, .ofFunction items, hfs, fun field => ?_, ?_, rfl⟩
    · rw [Fields.get_ofFunction]
      exact hitems field
    · exact hday.imp (unspecified_iff_mem hfirst hlimit hfs rfl (hitems .dayOfMonth)).2
        (unspecified_iff_mem hfirst hlimit hfs rfl (hitems .dayOfWeek)).2

/-- Blanks around the fields, a name in small letters and a year left out. -/
theorem isExpression_weekdayNoons :
    Field.firstYear ≤ (2125 : UInt32).toNat ∧
      IsExpression (2125 : UInt32).toNat (normalize " 0 0 12\t? * mon-Fri/2 ".toList) := by
  refine ⟨by decide, (exists_read_iff 2125 .utc _ (by decide)).1 ?_⟩
  obtain ⟨s, hs, -⟩ := exists_of_bind_eq_some
    (by decide +kernel : (read 2125 .utc " 0 0 12\t? * mon-Fri/2 ").toOption.bind
      (fun s => some s.day) = some .weekDays)
  exact ⟨s, hs⟩

/-! ## What a schedule is like -/

theorem checkValues_spec {fs : Fields Token} {day : DayRule} {sets : Fields ValueSet} {u : Unit}
    (h : checkValues fs day sets = .ok u) (field : Field)
    (hempty : (sets.get field).isEmpty = true) :
    field = .dayOfMonth ∧ day.isLastDayOfMonth = true := by
  unfold checkValues at h
  split at h
  · simp at h
  · rename_i hnone
    have hmem : (field, sets.get field) ∈ sets.toList :=
      List.mem_map.2 ⟨field, field.mem_all, rfl⟩
    simpa [hempty] using List.find?_eq_none.1 hnone _ hmem

/-- Nothing is accepted when no year may be named. -/
theorem firstYear_le_of_read (h : ofNormalized yearLimit zone text = .ok s) :
    Field.firstYear ≤ yearLimit := by
  simp only [ofNormalized, bind_eq_ok, Fields.mapExcept_eq_ok] at h
  obtain ⟨fs, -, items, hitems, _, hchecked, -⟩ := h
  have hyear : ¬ (valueSet yearLimit .year items.year).isEmpty = true :=
    fun hempty => absurd (checkValues_spec hchecked .year hempty).1 (by decide)
  simp only [ValueSet.isEmpty, Bool.and_eq_true, List.isEmpty_iff, Bool.not_eq_true', not_and,
    Bool.not_eq_false] at hyear
  by_cases hvalues : (valueSet yearLimit .year items.year).values = []
  · -- A year is never `?`.
    obtain ⟨piece, hitem⟩ :=
      readItems_spec (hitems .year) (isUnspecified_valueSet.1 (hyear hvalues))
    rcases hitem with hitem | hitem <;> cases hitem
    contradiction
  · obtain ⟨x, hx⟩ := List.exists_mem_of_ne_nil _ hvalues
    obtain ⟨item, hmem, hx⟩ := mem_valueSet.1 hx
    obtain ⟨piece, hitem⟩ := readItems_spec (hitems .year) hmem
    have hbounds := hitem.elim (·.bounds hx) (·.bounds hx)
    exact hbounds.1.trans hbounds.2

/-- **The schedule of an expression is well formed.** -/
theorem wellFormed_of_read (hlimit : yearLimit ≤ Cursor.greatestNumber) {text : String}
    (h : read yearLimit zone text = .ok s) : s.WellFormed yearLimit := by
  have hfirst := firstYear_le_of_read h
  obtain ⟨fs, items, -, hitems, -, rfl⟩ := (ofNormalized_eq_ok hfirst hlimit).1 h
  refine ⟨fun field x hx => ?_, fun field hday hempty => ?_, ?_⟩
  · rw [field_mk_map] at hx
    exact (hitems field).bounds hx
  · rw [field_mk_map] at hempty
    exact (hitems field).values_ne_nil hfirst hday hempty
  · rw [field_mk_map, field_mk_map]
    simp only [dayRule]
    split
    · rename_i hgiven
      exact (hitems .dayOfMonth).fits_dayOfMonth hfirst hgiven
    · split
      · rename_i hgiven
        exact (hitems .dayOfWeek).fits_dayOfWeek hfirst hgiven
      · trivial

theorem zone_of_read (hlimit : yearLimit ≤ Cursor.greatestNumber) {text : String}
    (h : read yearLimit zone text = .ok s) : s.zone = zone := by
  obtain ⟨fs, items, -, -, -, rfl⟩ :=
    (ofNormalized_eq_ok (firstYear_le_of_read h) hlimit).1 h
  rfl

/-- What the searches ask of a schedule, all of which reading one in some year brings. -/
theorem searchable_of_read {currentYear : Int} {text : String}
    (h : read (Field.yearLimit currentYear) zone text = .ok s) :
    s.WellFormed (Field.yearLimit currentYear) ∧ Field.yearLimit currentYear ≤ Field.lastYear ∧
      s.zone = zone := by
  have hlimit : Field.yearLimit currentYear ≤ Field.lastYear := Nat.min_le_right _ _
  have hgreatest := hlimit.trans (by decide : Field.lastYear ≤ Cursor.greatestNumber)
  exact ⟨wellFormed_of_read hgreatest h, hlimit, zone_of_read hgreatest h⟩

end Schedule

end CronSchedule
