import CronSchedule.Proofs.Expression.Cursor

/-!
# Reading one item

`readItem` and the grammar agree on a single item. Each reader has a lemma that
goes from its result to the grammar (`readItem_spec` joins them), and for each
form of the grammar the reader is run on a text of that form
(`readItem_listItem`, `readItem_loneItem`).
-/

namespace CronSchedule

namespace Expression

variable {field : Field} {yearLimit n position offset : Nat} {text rest chars : List Char}
variable {item : Item} {cursor : Cursor}

@[simp] theorem checkRange_eq_ok {u : Unit} : checkRange yearLimit field position n = .ok u ↔
    field.least ≤ n ∧ n ≤ field.greatest yearLimit := by
  unfold checkRange
  split <;> simp <;> omega

theorem IsValue.checkRange (h : IsValue yearLimit field text n) :
    checkRange yearLimit field position n = .ok () :=
  checkRange_eq_ok.2 h.bounds

theorem checkedRange_eq_ok {start step : Nat} {stop : Option Nat} :
    checkedRange yearLimit field position start stop step = .ok item ↔
      (field.least ≤ start ∧ start ≤ field.greatest yearLimit) ∧
      (∀ last ∈ stop, field.least ≤ last ∧ last ≤ field.greatest yearLimit) ∧
      (field = .year → start ≤ stop.getD (field.greatest yearLimit)) ∧
      item = .range start stop step := by
  have hcycle : field.cycle?.isNone = true ↔ field = .year := by
    cases field <;> simp [Field.cycle?]
  -- Both kinds of ranges end with the same check on the order of the years.
  have horder : ∀ last, (if last < start ∧ field = .year then
        Except.error (⟨.yearsReversed, position⟩ : ExpressionError)
        else pure (Item.range start stop step)) = .ok item ↔
      (field = .year → start ≤ last) ∧ item = .range start stop step := by
    intro last
    split <;> grind [pure_eq_ok]
  cases stop with
  | none => simp [checkedRange, bind_eq_ok, hcycle, horder]
  | some last => simp [checkedRange, bind_eq_ok, hcycle, horder]

/-! ## What has been read -/

theorem readUnspecified_spec (hpeek : cursor.peek? = some '?')
    (h : readUnspecified field cursor = .ok item) : LoneItem yearLimit field cursor.rest item := by
  simp only [readUnspecified, Cursor.guard_eq_ok, pure_eq_ok] at h
  obtain ⟨hend, hday, rfl⟩ := h
  rw [Cursor.rest_of_peek? hpeek, List.isEmpty_iff.1 (not_not.1 hend)]
  exact .unspecified (not_not.1 hday)

theorem readWildcard_spec (hpeek : cursor.peek? = some '*' ∨ cursor.peek? = some '/')
    (h : readWildcard yearLimit field cursor = .ok item) :
    ListItem yearLimit field cursor.rest item := by
  by_cases hbare : cursor.peek? = some '*' ∧ (cursor.skip 1).rest = []
  · simp [readWildcard, hbare.1, hbare.2, pure_eq_ok] at h
    rw [h, Cursor.rest_eq_cons.2 hbare]
    exact .all
  · rcases hpeek with hstar | hslash
    · simp only [readWildcard, hstar, true_and, if_true, List.isEmpty_iff,
        if_neg fun hend => hbare ⟨hstar, hend⟩, Cursor.guardUnexpected_eq_ok, bind_eq_ok,
        Cursor.expectEnd_eq_ok, checkedRange_eq_ok] at h
      obtain ⟨hslash, ⟨step, last⟩, hstep, -, hend, -, -, -, rfl⟩ := h
      rw [Cursor.rest_of_peek? hstar, Cursor.rest_of_peek? (not_not.1 hslash)]
      exact .allStep (Cursor.isStep_of_readStep hstep hend)
    · have hstar : cursor.peek? ≠ some '*' := by simp [hslash]
      simp only [readWildcard, hstar, false_and, if_false,
        Cursor.guardUnexpected_eq_ok, bind_eq_ok, Cursor.expectEnd_eq_ok,
        checkedRange_eq_ok] at h
      obtain ⟨-, ⟨step, last⟩, hstep, -, hend, -, -, -, rfl⟩ := h
      rw [Cursor.rest_of_peek? hslash]
      exact .step (Cursor.isStep_of_readStep hstep hend)

/-- How an item that begins with `L` ends, after its number. -/
theorem lastDay_suffix {after : Cursor}
    (h : (if after.peek? = some 'W' then do
        (after.skip 1).expectEnd
        pure (Item.lastDay n true)
      else do
        after.expectEnd
        pure (Item.lastDay n false)) = .ok item) :
    after.rest = ['W'] ∧ item = .lastDay n true ∨ after.rest = [] ∧ item = .lastDay n false := by
  split at h
  · rename_i hpeek
    simp only [bind_eq_ok, Cursor.expectEnd_eq_ok, pure_eq_ok] at h
    obtain ⟨-, hend, rfl⟩ := h
    exact .inl ⟨Cursor.rest_eq_cons.2 ⟨hpeek, hend⟩, rfl⟩
  · simp only [bind_eq_ok, Cursor.expectEnd_eq_ok, pure_eq_ok] at h
    obtain ⟨-, hend, rfl⟩ := h
    exact .inr ⟨hend, rfl⟩

theorem readLastDay_spec (hpeek : cursor.peek? = some 'L')
    (h : readLastDay cursor = .ok item) : LoneItem yearLimit .dayOfMonth cursor.rest item := by
  simp only [readLastDay] at h
  rw [Cursor.rest_of_peek? hpeek]
  split at h
  · rename_i hminus
    simp only [bind_eq_ok, Cursor.guard_eq_ok] at h
    obtain ⟨⟨offset, after⟩, hread, hoffset, hsuffix⟩ := h
    obtain ⟨digits, hdigits, hnumber⟩ := Cursor.readNumber_spec hread
    rw [Cursor.rest_of_peek? hminus, hdigits]
    rcases lastDay_suffix hsuffix with ⟨hrest, rfl⟩ | ⟨hrest, rfl⟩
    · exact hrest ▸ .lastWorkdayOffset hnumber (Nat.not_lt.1 hoffset)
    · rw [hrest, List.append_nil]
      exact .lastDayOffset hnumber (Nat.not_lt.1 hoffset)
  · simp only [bind_eq_ok, Cursor.guard_eq_ok, pure_eq_ok] at h
    obtain ⟨-, rfl, -, hsuffix⟩ := h
    rcases lastDay_suffix hsuffix with ⟨hrest, rfl⟩ | ⟨hrest, rfl⟩
    · exact hrest ▸ .lastWorkday
    · exact hrest ▸ .lastDay

theorem readLast_spec (hpeek : cursor.peek? = some 'L')
    (h : readLast yearLimit field cursor = .ok item) :
    LoneItem yearLimit field cursor.rest item := by
  unfold readLast at h
  split at h
  · exact readLastDay_spec hpeek h
  · simp only [bind_eq_ok, Cursor.expectEnd_eq_ok, pure_eq_ok] at h
    obtain ⟨-, hend, rfl⟩ := h
    rw [Cursor.rest_of_peek? hpeek, hend]
    exact .saturday
  · simp at h

theorem readValues_spec (h : readValues yearLimit field cursor = .ok item) :
    ListItem yearLimit field cursor.rest item ∨ LoneItem yearLimit field cursor.rest item := by
  simp only [readValues, bind_eq_ok] at h
  obtain ⟨⟨start, after⟩, hread, h⟩ := h
  simp only at h
  -- What follows the first value decides: nothing, `L`, `W`, `#`, `-`, `/` or something else.
  split at h
  case h_1 hpeek =>
    simp only [bind_eq_ok, checkRange_eq_ok, pure_eq_ok] at h
    obtain ⟨-, ⟨hleast, hgreatest⟩, rfl⟩ := h
    obtain ⟨text, hrest, hvalue⟩ := Cursor.readValue_spec hread hleast hgreatest
    rw [hrest, Cursor.peek?_eq_none.1 hpeek, List.append_nil]
    exact .inl (.value hvalue)
  case h_2 hpeek =>
    simp only [bind_eq_ok, Cursor.guard_eq_ok, Cursor.expectEnd_eq_ok, checkRange_eq_ok,
      pure_eq_ok] at h
    obtain ⟨hfield, -, hend, -, ⟨hleast, hgreatest⟩, rfl⟩ := h
    obtain ⟨text, hrest, hvalue⟩ := Cursor.readValue_spec hread hleast hgreatest
    rw [hrest, Cursor.rest_of_peek? hpeek, hend]
    obtain rfl := not_not.1 hfield
    exact .inr (.lastWeekday hvalue)
  case h_3 hpeek =>
    simp only [bind_eq_ok, Cursor.guard_eq_ok, Cursor.expectEnd_eq_ok, checkRange_eq_ok,
      pure_eq_ok] at h
    obtain ⟨hfield, -, -, hend, -, ⟨hleast, hgreatest⟩, rfl⟩ := h
    obtain ⟨text, hrest, hvalue⟩ := Cursor.readValue_spec hread hleast hgreatest
    rw [hrest, Cursor.rest_of_peek? hpeek, hend]
    obtain rfl := not_not.1 hfield
    exact .inr (.nearestWeekday hvalue)
  case h_4 hpeek =>
    rw [Cursor.guard_eq_ok] at h
    obtain ⟨hfield, h⟩ := h
    obtain rfl := not_not.1 hfield
    split at h
    · rename_i nth last hnth
      simp only [bind_eq_ok, Cursor.guard_eq_ok, Cursor.expectEnd_eq_ok, checkRange_eq_ok,
        pure_eq_ok] at h
      obtain ⟨hbounds, -, hend, -, ⟨hleast, hgreatest⟩, rfl⟩ := h
      obtain ⟨text, hrest, hvalue⟩ := Cursor.readValue_spec hread hleast hgreatest
      obtain ⟨digits, hdigits, hnumber⟩ := Cursor.readNumber_spec hnth
      rw [hrest, Cursor.rest_of_peek? hpeek, hdigits, hend, List.append_nil]
      exact .inr (.nthWeekday hvalue hnumber (by omega) (by omega))
    · simp at h
  case h_5 hpeek =>
    rw [bind_eq_ok] at h
    obtain ⟨⟨stop, later⟩, hstop, h⟩ := h
    simp only at h
    split at h
    · rename_i hslash
      simp only [bind_eq_ok, Cursor.expectEnd_eq_ok, checkedRange_eq_ok] at h
      obtain ⟨⟨step, last⟩, hstep, -, hend, ⟨hleast, hgreatest⟩, hlast, hyear, rfl⟩ := h
      obtain ⟨first, hfirst, hvalue⟩ := Cursor.readValue_spec hread hleast hgreatest
      obtain ⟨second, hsecond, hvalue'⟩ :=
        Cursor.readValue_spec hstop (hlast stop rfl).1 (hlast stop rfl).2
      rw [hfirst, Cursor.rest_of_peek? hpeek, hsecond, Cursor.rest_of_peek? hslash]
      exact .inl (.rangeStep hvalue hvalue' hyear (Cursor.isStep_of_readStep hstep hend))
    · simp only [bind_eq_ok, Cursor.expectEnd_eq_ok, checkedRange_eq_ok, pure_eq_ok] at h
      obtain ⟨-, rfl, -, hend, ⟨hleast, hgreatest⟩, hlast, hyear, rfl⟩ := h
      obtain ⟨first, hfirst, hvalue⟩ := Cursor.readValue_spec hread hleast hgreatest
      obtain ⟨second, hsecond, hvalue'⟩ :=
        Cursor.readValue_spec hstop (hlast stop rfl).1 (hlast stop rfl).2
      rw [hfirst, Cursor.rest_of_peek? hpeek, hsecond, hend, List.append_nil]
      exact .inl (.range hvalue hvalue' hyear)
  case h_6 hpeek =>
    simp only [bind_eq_ok, Cursor.expectEnd_eq_ok, checkedRange_eq_ok] at h
    obtain ⟨⟨step, last⟩, hstep, -, hend, ⟨hleast, hgreatest⟩, -, -, rfl⟩ := h
    obtain ⟨text, hrest, hvalue⟩ := Cursor.readValue_spec hread hleast hgreatest
    rw [hrest, Cursor.rest_of_peek? hpeek]
    exact .inl (.valueStep hvalue (Cursor.isStep_of_readStep hstep hend))
  case h_7 => simp at h

/-- **An item that has been read is in the grammar.** -/
theorem readItem_spec (h : readItem yearLimit field ⟨offset, text⟩ = .ok item) :
    ListItem yearLimit field text item ∨ LoneItem yearLimit field text item := by
  unfold readItem at h
  simp only at h
  split at h
  case h_1 => simp at h
  case h_2 hpeek => exact .inr (readUnspecified_spec hpeek h)
  case h_3 hpeek => exact .inl (readWildcard_spec (.inl hpeek) h)
  case h_4 hpeek => exact .inl (readWildcard_spec (.inr hpeek) h)
  case h_5 hpeek => exact .inr (readLast_spec hpeek h)
  case h_6 => exact readValues_spec h

/-! ## What is read -/

/-- An item that begins with a value is read as one. -/
theorem readItem_value {limit : Nat} (h : IsValue limit field text n) :
    readItem yearLimit field ⟨offset, text ++ rest⟩ =
      readValues yearLimit field ⟨text ++ rest, offset⟩ := by
  obtain ⟨c, later, rfl, hc, hL⟩ := h.head
  have hne : c ≠ '?' ∧ c ≠ '*' ∧ c ≠ '/' := by
    refine ⟨?_, ?_, ?_⟩ <;> rintro rfl <;> simp at hc
  unfold readItem
  simp only [Cursor.peek?, List.cons_append, List.head?_cons]
  split <;> simp_all

section Value

variable {limit : Nat} (hlimit : limit ≤ Cursor.greatestNumber)
include hlimit

/-- A value is read, and then it has to be in the field. -/
theorem readItem_of_value (h : IsValue limit field text n) :
    readItem yearLimit field ⟨offset, text⟩ =
      checkRange yearLimit field offset n >>= fun _ => pure (.value n) := by
  rw [← List.append_nil text, readItem_value h]
  simp [readValues, Cursor.readValue_all hlimit h]

/-- The two ends of a range are read, and then they have to be in the field. -/
theorem readItem_of_range {last : List Char} {w : Nat} (h : IsValue limit field text n)
    (h' : IsValue limit field last w) :
    readItem yearLimit field ⟨offset, text ++ '-' :: last⟩ =
      checkedRange yearLimit field offset n (some w) 1 := by
  rw [readItem_value h]
  simp [readValues, Cursor.readValue_append hlimit h, Cursor.readValue_all hlimit h']

theorem readItem_of_rangeStep {last digits : List Char} {w step : Nat}
    (h : IsValue limit field text n) (h' : IsValue limit field last w)
    (hstep : IsStep field digits step) :
    readItem yearLimit field ⟨offset, text ++ '-' :: (last ++ '/' :: digits)⟩ =
      checkedRange yearLimit field offset n (some w) step := by
  rw [readItem_value h]
  simp [readValues, Cursor.readValue_append hlimit h, Cursor.readValue_append hlimit h',
    Cursor.readStep_all hstep]

theorem readItem_of_valueStep {digits : List Char} {step : Nat} (h : IsValue limit field text n)
    (hstep : IsStep field digits step) :
    readItem yearLimit field ⟨offset, text ++ '/' :: digits⟩ =
      checkedRange yearLimit field offset n none step := by
  rw [readItem_value h]
  simp [readValues, Cursor.readValue_append hlimit h, Cursor.readStep_all hstep]

end Value

section Complete

variable (hfirst : Field.firstYear ≤ yearLimit) (hlimit : yearLimit ≤ Cursor.greatestNumber)

include hfirst in
/-- A range from the least value on is in the field. -/
theorem checkedRange_least {step : Nat} :
    checkedRange yearLimit field position field.least none step =
      .ok (.range field.least none step) := by
  have hle : field.least ≤ field.greatest yearLimit := by
    cases field <;> simp [Field.least, Field.greatest, hfirst]
  exact checkedRange_eq_ok.2 ⟨⟨le_rfl, hle⟩, by simp, fun _ => hle, rfl⟩

include hfirst hlimit in
/-- **An item that may stand in a list is read.** -/
theorem readItem_listItem (h : ListItem yearLimit field text item) :
    readItem yearLimit field ⟨offset, text⟩ = .ok item := by
  cases h with
  | all => rfl
  | allStep hstep =>
    simp [readItem, readWildcard, Cursor.readStep_all hstep, checkedRange_least hfirst]
  | step hstep =>
    simp [readItem, readWildcard, Cursor.readStep_all hstep, checkedRange_least hfirst]
  | value hvalue =>
    rw [readItem_of_value hlimit hvalue, hvalue.checkRange]
    rfl
  | range hvalue hvalue' hyear =>
    rw [readItem_of_range hlimit hvalue hvalue', checkedRange_eq_ok]
    exact ⟨hvalue.bounds, by simpa using hvalue'.bounds, hyear, rfl⟩
  | rangeStep hvalue hvalue' hyear hstep =>
    rw [readItem_of_rangeStep hlimit hvalue hvalue' hstep, checkedRange_eq_ok]
    exact ⟨hvalue.bounds, by simpa using hvalue'.bounds, hyear, rfl⟩
  | valueStep hvalue hstep =>
    rw [readItem_of_valueStep hlimit hvalue hstep, checkedRange_eq_ok]
    exact ⟨hvalue.bounds, by simp, fun _ => hvalue.bounds.2, rfl⟩

include hlimit in
/-- **An item that is a whole field is read.** -/
theorem readItem_loneItem (h : LoneItem yearLimit field text item) :
    readItem yearLimit field ⟨offset, text⟩ = .ok item := by
  have hgreatest : ∀ {k : Nat}, k ≤ greatestLastDayOffset → k ≤ Cursor.greatestNumber :=
    fun hk => hk.trans (by decide)
  cases h with
  | unspecified hday => simp [readItem, readUnspecified, hday, pure_eq_ok]
  | lastDay => rfl
  | lastDayOffset hnumber hk =>
    simp [readItem, readLast, readLastDay, Cursor.readNumber_all hnumber (hgreatest hk),
      Nat.not_lt.2 hk]
  | lastWorkday => rfl
  | lastWorkdayOffset hnumber hk =>
    simp [readItem, readLast, readLastDay, Cursor.readNumber_append hnumber (hgreatest hk),
      Nat.not_lt.2 hk]
  | nearestWeekday hvalue =>
    rw [readItem_value hvalue]
    simp [readValues, Cursor.readValue_append hlimit hvalue, hvalue.checkRange,
      Nat.not_lt.2 hvalue.bounds.2]
  | saturday => rfl
  | lastWeekday hvalue =>
    rw [readItem_value hvalue]
    simp [readValues, Cursor.readValue_append hlimit hvalue, hvalue.checkRange]
  | nthWeekday hvalue hnumber hone hfive =>
    rw [readItem_value hvalue]
    simp [readValues, Cursor.readValue_append hlimit hvalue, hvalue.checkRange,
      Cursor.readNumber_all hnumber (hfive.trans (by decide)), Nat.one_le_iff_ne_zero.1 hone,
      Nat.not_lt.2 hfive]

end Complete

end Expression

end CronSchedule
