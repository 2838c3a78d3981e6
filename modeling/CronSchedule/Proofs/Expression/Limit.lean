import CronSchedule.Proofs.Expression.Meaning

/-!
# A field under two year limits

The year limit is the largest value of the year field, and no other field knows it. With a
later limit a text stays in the grammar and keeps its items (`IsField.mono`), the sets of
the other fields stay the same (`valueSet_congr`), and the set of the years gains those
after the earlier limit (`IsField.mem_valueSet_year_iff`). The other way round, a field
that is only in the grammar under the later limit has a value out of range, and that is
what the reader reports, at a place in the field (`readItems_outOfRange`).
-/

namespace CronSchedule

namespace Field

variable {yearLimit wider : Nat}

theorem greatest_mono (field : Field) (h : yearLimit ≤ wider) :
    field.greatest yearLimit ≤ field.greatest wider := by
  cases field <;> first | exact h | exact le_rfl

theorem greatest_of_ne_year {field : Field} (h : field ≠ .year) :
    field.greatest yearLimit = field.greatest wider := by
  cases field <;> first | rfl | exact absurd rfl h

end Field

namespace Expression

open Text

variable {field : Field} {yearLimit wider n x offset position : Nat} {text : List Char}
variable {item : Item} {items : List Item} {token : Token} {error : ExpressionError}

/-- Each item of a field lies within it. -/
theorem Token.bounds_of_mem_items {piece : Token} (h : piece ∈ token.items) :
    token.offset ≤ piece.offset ∧
      piece.offset + byteLength piece.chars ≤ token.offset + byteLength token.chars := by
  obtain ⟨⟨offset, chars⟩, hmem, rfl⟩ := List.mem_map.1 h
  have hbounds := bounds_of_mem_withOffsets hmem
  rwa [intercalate_split] at hbounds

/-! ## The grammar -/

theorem IsValue.mono (hle : field.greatest yearLimit ≤ field.greatest wider)
    (h : IsValue yearLimit field text n) : IsValue wider field text n := by
  cases h with
  | number hnumber hleast hgreatest => exact .number hnumber hleast (hgreatest.trans hle)
  | name hname => exact .name hname

theorem ListItem.mono (hle : field.greatest yearLimit ≤ field.greatest wider)
    (h : ListItem yearLimit field text item) : ListItem wider field text item := by
  cases h with
  | all => exact .all
  | allStep hstep => exact .allStep hstep
  | step hstep => exact .step hstep
  | value hvalue => exact .value (hvalue.mono hle)
  | range hvalue hvalue' hyear => exact .range (hvalue.mono hle) (hvalue'.mono hle) hyear
  | rangeStep hvalue hvalue' hyear hstep =>
    exact .rangeStep (hvalue.mono hle) (hvalue'.mono hle) hyear hstep
  | valueStep hvalue hstep => exact .valueStep (hvalue.mono hle) hstep

/-- An item that stands alone is about days, so the years have no say in it. -/
theorem LoneItem.mono (wider : Nat) (h : LoneItem yearLimit field text item) :
    LoneItem wider field text item := by
  have hday : Field.dayOfMonth.greatest yearLimit ≤ Field.dayOfMonth.greatest wider := le_rfl
  have hweek : Field.dayOfWeek.greatest yearLimit ≤ Field.dayOfWeek.greatest wider := le_rfl
  cases h with
  | unspecified hfield => exact .unspecified hfield
  | lastDay => exact .lastDay
  | lastDayOffset hnumber hk => exact .lastDayOffset hnumber hk
  | lastWorkday => exact .lastWorkday
  | lastWorkdayOffset hnumber hk => exact .lastWorkdayOffset hnumber hk
  | nearestWeekday hvalue => exact .nearestWeekday (hvalue.mono hday)
  | saturday => exact .saturday
  | lastWeekday hvalue => exact .lastWeekday (hvalue.mono hweek)
  | nthWeekday hvalue hnumber hone hfive =>
    exact .nthWeekday (hvalue.mono hweek) hnumber hone hfive

/-- **A later limit keeps a field in the grammar**, with the same items. -/
theorem IsField.mono (hle : field.greatest yearLimit ≤ field.greatest wider)
    (h : IsField yearLimit field text items) : IsField wider field text items := by
  rcases h with hlone | hlist
  · exact .lone (hlone.mono wider)
  · exact .list (hlist.imp fun _ _ => ListItem.mono hle)

/-! ## The values -/

theorem Item.values_congr (h : field.greatest yearLimit = field.greatest wider) (item : Item) :
    item.values yearLimit field = item.values wider field := by
  cases item <;> simp only [Item.values, rangeValues, h]

/-- **The sets of the fields that are not about years are the same.** -/
theorem valueSet_congr (h : field.greatest yearLimit = field.greatest wider) :
    valueSet yearLimit field items = valueSet wider field items := by
  have hadd : Item.addTo yearLimit field = Item.addTo wider field := by
    funext set item
    simp only [Item.addTo, Item.values_congr h item]
  rw [valueSet, valueSet, hadd]

/-- Years never start over. -/
theorem rangeValues_year {start step : Nat} {stop : Option Nat} :
    rangeValues yearLimit .year start stop step = countUp start (stop.getD yearLimit) step := by
  unfold rangeValues
  show (if start ≤ stop.getD yearLimit then countUp start (stop.getD yearLimit) step else []) = _
  split
  · rfl
  · rename_i hlt
    rw [countUp, if_neg hlt]

/-- Counting up to a later end, the values up to the earlier one come first. -/
theorem mem_countUp_wider {start step : Nat} (hle : yearLimit ≤ wider) (hstep : 0 < step) :
    x ∈ countUp start yearLimit step ↔ x ∈ countUp start wider step ∧ x ≤ yearLimit := by
  rw [mem_countUp_iff hstep, mem_countUp_iff hstep]
  constructor
  · rintro ⟨i, hx, hlimit⟩
    exact ⟨⟨i, hx, hlimit.trans hle⟩, hlimit⟩
  · rintro ⟨⟨i, hx, -⟩, hlimit⟩
    exact ⟨i, hx, hlimit⟩

theorem ListItem.mem_values_year_iff (hle : yearLimit ≤ wider)
    (h : ListItem yearLimit .year text item) :
    x ∈ item.values yearLimit .year ↔ x ∈ item.values wider .year ∧ x ≤ yearLimit := by
  -- A range that has an end has it within the earlier limit.
  have hclosed : ∀ {v w n}, w ≤ yearLimit → (x ∈ rangeValues yearLimit .year v (some w) n ↔
      x ∈ rangeValues wider .year v (some w) n ∧ x ≤ yearLimit) := by
    intro v w n hw
    rw [rangeValues_year, rangeValues_year]
    exact (and_iff_left_of_imp fun hx => (mem_countUp hx).2.trans hw).symm
  have hopen : ∀ {v n}, 0 < n → (x ∈ rangeValues yearLimit .year v none n ↔
      x ∈ rangeValues wider .year v none n ∧ x ≤ yearLimit) := by
    intro v n hn
    rw [rangeValues_year, rangeValues_year]
    exact mem_countUp_wider hle hn
  cases h with
  | all => exact mem_countUp_wider hle Nat.one_pos
  | allStep hstep | step hstep | valueStep _ hstep => exact hopen hstep.pos
  | value hvalue =>
    refine (and_iff_left_of_imp fun hx => ?_).symm
    rw [List.mem_singleton.1 hx]
    exact hvalue.bounds.2
  | range _ hvalue' | rangeStep _ hvalue' => exact hclosed hvalue'.bounds.2

/-- **The years under the earlier limit are those under the later one that it allows.** -/
theorem IsField.mem_valueSet_year_iff (hle : yearLimit ≤ wider)
    (h : IsField yearLimit .year text items) :
    x ∈ (valueSet yearLimit .year items).values ↔
      x ∈ (valueSet wider .year items).values ∧ x ≤ yearLimit := by
  have hitem : ∀ item ∈ items,
      (x ∈ item.values yearLimit .year ↔ x ∈ item.values wider .year ∧ x ≤ yearLimit) := by
    intro item hmem
    rcases h with hlone | hlist
    · exact absurd hlone.isDay (by decide)
    · obtain ⟨piece, hpiece⟩ := exists_of_forall₂ hlist hmem
      exact hpiece.mem_values_year_iff hle
  rw [mem_valueSet, mem_valueSet]
  constructor
  · rintro ⟨item, hmem, hx⟩
    obtain ⟨hwider, hlimit⟩ := (hitem item hmem).1 hx
    exact ⟨⟨item, hmem, hwider⟩, hlimit⟩
  · rintro ⟨⟨item, hmem, hx⟩, hlimit⟩
    exact ⟨item, hmem, (hitem item hmem).2 ⟨hx, hlimit⟩⟩

/-! ## The reader -/

theorem checkRange_cases (yearLimit : Nat) (field : Field) (position n : Nat) :
    checkRange yearLimit field position n = .ok () ∨
      checkRange yearLimit field position n =
        .error ⟨.outOfRange field yearLimit, position⟩ := by
  unfold checkRange
  split
  · exact .inr rfl
  · exact .inl rfl

/-- A range whose years come in order can only be out of range. -/
theorem checkedRange_cases {start step : Nat} {stop : Option Nat}
    (h : ∀ last ∈ stop, field = .year → start ≤ last) :
    checkedRange yearLimit field position start stop step = .ok (.range start stop step) ∨
      checkedRange yearLimit field position start stop step =
        .error ⟨.outOfRange field yearLimit, position⟩ := by
  rcases checkRange_cases yearLimit field position start with hstart | hstart
  · have hbounds := checkRange_eq_ok.1 hstart
    cases stop with
    | none => exact .inl (checkedRange_eq_ok.2 ⟨hbounds, by simp, fun _ => hbounds.2, rfl⟩)
    | some last =>
      rcases checkRange_cases yearLimit field position last with hlast | hlast
      · have hbounds' := checkRange_eq_ok.1 hlast
        exact .inl (checkedRange_eq_ok.2 ⟨hbounds, by simpa using hbounds', h last rfl, rfl⟩)
      · refine .inr ?_
        simp only [checkedRange, hstart, hlast]
        rfl
  · refine .inr ?_
    simp only [checkedRange, hstart]
    rfl

section

variable (hfirst : Field.firstYear ≤ yearLimit) (hle : yearLimit ≤ wider)
  (hwider : wider ≤ Cursor.greatestNumber)
include hfirst hle hwider

/-- **An item of the grammar under the later limit** is read under the earlier one, or it is
out of range. -/
theorem ListItem.readItem_cases (h : ListItem wider field text item) :
    readItem yearLimit field ⟨offset, text⟩ = .ok item ∨
      readItem yearLimit field ⟨offset, text⟩ =
        .error ⟨.outOfRange field yearLimit, offset⟩ := by
  have hlimit := hle.trans hwider
  cases h with
  | all => exact .inl (readItem_listItem hfirst hlimit .all)
  | allStep hstep => exact .inl (readItem_listItem hfirst hlimit (.allStep hstep))
  | step hstep => exact .inl (readItem_listItem hfirst hlimit (.step hstep))
  | @value _ v hvalue =>
    rw [readItem_of_value hwider hvalue]
    rcases checkRange_cases yearLimit field offset v with hrange | hrange
    · rw [hrange]
      exact .inl rfl
    · rw [hrange]
      exact .inr rfl
  | range hvalue hvalue' hyear =>
    rw [readItem_of_range hwider hvalue hvalue']
    exact checkedRange_cases (by simpa using hyear)
  | rangeStep hvalue hvalue' hyear hstep =>
    rw [readItem_of_rangeStep hwider hvalue hvalue' hstep]
    exact checkedRange_cases (by simpa using hyear)
  | valueStep hvalue hstep =>
    rw [readItem_of_valueStep hwider hvalue hstep]
    exact checkedRange_cases (by simp)

/-- **A field of the grammar under the later limit** is read under the earlier one, or a value
is out of range, and the fault is placed at its item. -/
theorem readItems_outOfRange (hwide : readItems wider field token = .ok items)
    (herror : readItems yearLimit field token = .error error) :
    error.fault = .outOfRange field yearLimit ∧ token.offset ≤ error.position ∧
      error.position < token.offset + byteLength token.chars := by
  have hfield := (readItems_eq_ok (hfirst.trans hle) hwider).1 hwide
  rcases hfield with hlone | hlist
  · -- An item that stands alone is read under any limit.
    have hread := (readItems_eq_ok hfirst (hle.trans hwider)).2
      (.lone (hlone.mono yearLimit) : IsField yearLimit field token.chars _)
    rw [hread] at herror
    cases herror
  · have hfault : listFault? field token.chars = none := by
      unfold readItems at hwide
      split at hwide
      · cases hwide
      · assumption
    rw [readItems, hfault] at herror
    obtain ⟨earlier, piece, later, hitems, -, hread⟩ := mapM_eq_error.1 herror
    have hpiece : piece ∈ token.items := by simp [hitems]
    obtain ⟨hstart, hend⟩ := Token.bounds_of_mem_items hpiece
    have hchars : piece.chars ∈ split ',' token.chars := by
      rw [← Token.map_items]
      exact List.mem_map_of_mem hpiece
    obtain ⟨item, hitem⟩ := exists_of_forall₂ hlist.flip hchars
    rcases hitem.readItem_cases hfirst hle hwider with hok | hout
    · rw [hok] at hread
      cases hread
    · obtain rfl := Except.error.inj (hout.symm.trans hread)
      have := byteLength_pos hitem.ne_nil
      refine ⟨rfl, hstart, ?_⟩
      show piece.offset < _
      omega

end

end Expression

end CronSchedule
