import CronSchedule.Proofs.Expression.Grammar
import Mathlib.Data.List.TakeWhile

/-!
# What the cursor reads

Each reader of a `Cursor` takes the longest piece of its kind off the text. For
each one there are two lemmas: what it has read when it succeeds, and that it
succeeds on every text that begins with such a piece. A piece of digits is only
read to its end when no digit follows (`NoDigit`).
-/

namespace CronSchedule

/-- A computation that may fail succeeds when its two halves do. -/
theorem bind_eq_ok {ε α β : Type} {x : Except ε α} {f : α → Except ε β} {b : β} :
    (x >>= f) = .ok b ↔ ∃ a, x = .ok a ∧ f a = .ok b := by
  cases x <;> simp [Bind.bind, Except.bind]

/-- A computation fails when one of its two halves does. -/
theorem bind_eq_error {ε α β : Type} {x : Except ε α} {f : α → Except ε β} {e : ε} :
    (x >>= f) = .error e ↔ x = .error e ∨ ∃ a, x = .ok a ∧ f a = .error e := by
  cases x <;> simp [Bind.bind, Except.bind]

@[simp] theorem ok_bind {ε α β : Type} {a : α} {f : α → Except ε β} : (Except.ok a >>= f) = f a :=
  rfl

theorem pure_eq_ok {ε α : Type} {a b : α} : (pure a : Except ε α) = .ok b ↔ b = a :=
  ⟨fun h => (Except.ok.inj h).symm, fun h => h ▸ rfl⟩

namespace Field

variable {field : Field} {name : String} {n : Nat}

/-- A name stands for the value at its place in the list of names. -/
theorem valueOfName?_spec (h : field.valueOfName? name = some n) :
    name ∈ field.valueNames ∧ field.least ≤ n ∧ n < field.least + field.valueNames.length := by
  simp only [valueOfName?, Option.map_eq_some_iff] at h
  obtain ⟨index, hindex, rfl⟩ := h
  obtain ⟨hlt, heq, -⟩ := List.findIdx?_eq_some_iff_getElem.1 hindex
  have hname : field.valueNames[index] = name := by simpa using heq
  exact ⟨hname ▸ List.getElem_mem hlt, by omega, by omega⟩

theorem least_le_of_name (h : field.valueOfName? name = some n) : field.least ≤ n :=
  (valueOfName?_spec h).2.1

theorem le_greatest_of_name (yearLimit : Nat) (h : field.valueOfName? name = some n) :
    n ≤ field.greatest yearLimit := by
  obtain ⟨hmem, hleast, hlt⟩ := valueOfName?_spec h
  cases field <;> simp [least, valueNames, greatest] at hmem hlt ⊢ <;> omega

theorem mem_of_name {letters : List Char}
    (h : field.valueOfName? (String.ofList letters) = some n) :
    letters ∈ field.valueNames.map String.toList := by
  simpa using List.mem_map_of_mem (f := String.toList) (valueOfName?_spec h).1

/-- Names are three capitals, of which the first is never `L`. -/
theorem capitals_of_name {letters : List Char}
    (h : field.valueOfName? (String.ofList letters) = some n) :
    letters.length = 3 ∧ (∀ c ∈ letters, c.isUpper = true) ∧ letters.head? ≠ some 'L' := by
  have hall : ∀ letters ∈ field.valueNames.map String.toList,
      letters.length = 3 ∧ (∀ c ∈ letters, c.isUpper = true) ∧ letters.head? ≠ some 'L' := by
    cases field <;> simp [valueNames]
  exact hall _ (mem_of_name h)

/-- No weekday has an `L` in its name. -/
theorem not_mem_of_weekday {letters : List Char}
    (h : dayOfWeek.valueOfName? (String.ofList letters) = some n) : 'L' ∉ letters := by
  have hall : ∀ letters ∈ dayOfWeek.valueNames.map String.toList, 'L' ∉ letters := by decide
  exact hall _ (mem_of_name h)

theorem greatest_le {yearLimit bound : Nat} (field : Field) (hlimit : yearLimit ≤ bound)
    (hbound : 59 ≤ bound) : field.greatest yearLimit ≤ bound := by
  cases field <;> simp only [greatest] <;> omega

theorem greatestStep_le (field : Field) : field.greatestStep ≤ lastYear := by
  cases field <;> decide

end Field

namespace Expression

variable {field : Field} {yearLimit n position : Nat} {text rest : List Char}

/-- No digit stands at the beginning. -/
def NoDigit (text : List Char) : Prop :=
  ∀ c ∈ text.head?, c.isDigit = false

@[simp] theorem noDigit_nil : NoDigit [] := by
  simp [NoDigit]

@[simp] theorem noDigit_cons {c : Char} : NoDigit (c :: rest) ↔ c.isDigit = false := by
  simp [NoDigit]

theorem not_isDigit_of_isUpper {c : Char} (h : c.isUpper = true) : c.isDigit = false := by
  have hupper : 'A'.toNat ≤ c.toNat := (of_decide_eq_true h).1
  refine Bool.eq_false_iff.2 fun hdigit => ?_
  have hdigit : c.toNat ≤ '9'.toNat := (Char.isDigit_iff_toNat.1 hdigit).2
  have : '9'.toNat < 'A'.toNat := by decide
  omega

/-- A value begins with a digit or a capital, and never with `L`. -/
theorem IsValue.head (h : IsValue yearLimit field text n) :
    ∃ c rest, text = c :: rest ∧ (c.isDigit = true ∨ c.isUpper = true) ∧ c ≠ 'L' := by
  cases h with
  | number hnumber =>
    obtain ⟨hne, hdigits, -⟩ := hnumber
    obtain ⟨c, rest, rfl⟩ := List.exists_cons_of_ne_nil hne
    have hc := hdigits c (by simp)
    exact ⟨c, rest, rfl, .inl hc, by rintro rfl; simp at hc⟩
  | name hname =>
    obtain ⟨hlength, hupper, hhead⟩ := Field.capitals_of_name hname
    obtain ⟨c, rest, rfl⟩ := List.exists_cons_of_length_pos (by omega : 0 < text.length)
    exact ⟨c, rest, rfl, .inr (hupper c (by simp)), by simpa using hhead⟩

theorem IsValue.bounds (h : IsValue yearLimit field text n) :
    field.least ≤ n ∧ n ≤ field.greatest yearLimit := by
  cases h with
  | number _ hleast hgreatest => exact ⟨hleast, hgreatest⟩
  | name hname => exact ⟨Field.least_le_of_name hname, Field.le_greatest_of_name _ hname⟩

namespace Cursor

variable {cursor after : Cursor}

@[simp] theorem peek?_cons {c : Char} : peek? ⟨c :: rest, position⟩ = some c :=
  rfl

@[simp] theorem peek?_nil : peek? ⟨[], position⟩ = none :=
  rfl

@[simp] theorem skip_one {c : Char} : skip ⟨c :: rest, position⟩ 1 = ⟨rest, position + 1⟩ :=
  rfl

@[simp] theorem expectEnd_nil : expectEnd ⟨[], position⟩ = .ok () :=
  rfl

@[simp] theorem fail_ne_ok {α : Type} {fault : Fault} {a : α} : cursor.fail fault ≠ .ok a := by
  simp [fail]

@[simp] theorem failUnexpected_ne_ok {α : Type} {a : α} : cursor.failUnexpected ≠ .ok a := by
  unfold failUnexpected
  split <;> simp

@[simp] theorem expectEnd_eq_ok {u : Unit} : cursor.expectEnd = .ok u ↔ cursor.rest = [] := by
  unfold expectEnd
  split <;> simp_all

@[simp] theorem peek?_eq_none : cursor.peek? = none ↔ cursor.rest = [] :=
  List.head?_eq_none_iff

/-- What `peek?` shows stands before what `skip` leaves. -/
theorem rest_eq_cons {c : Char} :
    cursor.rest = c :: rest ↔ cursor.peek? = some c ∧ (cursor.skip 1).rest = rest := by
  obtain ⟨_ | ⟨first, later⟩, position⟩ := cursor <;> simp [peek?, skip]

theorem rest_of_peek? {c : Char} (h : cursor.peek? = some c) :
    cursor.rest = c :: (cursor.skip 1).rest :=
  rest_eq_cons.2 ⟨h, rfl⟩

/-- A check that fails stops the reader. -/
@[simp] theorem guard_eq_ok {α β : Type} {c : Prop} [Decidable c] {fault : Fault}
    {f : α → Except ExpressionError β} {x : Except ExpressionError β} {b : β} :
    (if c then cursor.fail fault >>= f else x) = .ok b ↔ ¬ c ∧ x = .ok b := by
  split <;> simp [*, bind_eq_ok]

@[simp] theorem guardUnexpected_eq_ok {α β : Type} {c : Prop} [Decidable c]
    {f : α → Except ExpressionError β} {x : Except ExpressionError β} {b : β} :
    (if c then cursor.failUnexpected >>= f else x) = .ok b ↔ ¬ c ∧ x = .ok b := by
  split <;> simp [*, bind_eq_ok]

/-- What `readNumber` has read. -/
theorem readNumber_spec (h : cursor.readNumber = .ok (n, after)) :
    ∃ digits, cursor.rest = digits ++ after.rest ∧ IsNumber digits n := by
  simp only [readNumber] at h
  split at h
  · simp at h
  · rename_i hne
    split at h
    · simp at h
    · simp only [Except.ok.injEq, Prod.mk.injEq] at h
      obtain ⟨hn, rfl⟩ := h
      refine ⟨cursor.rest.takeWhile Char.isDigit, ?_, by simpa using hne, ?_, hn⟩
      · simp only [skip]
        exact (List.prefix_iff_eq_append.1 (List.takeWhile_prefix _)).symm
      · exact fun c hc => List.mem_takeWhile_imp hc

/-- `readNumber` takes all digits that there are. -/
theorem readNumber_append (h : IsNumber text n) (hn : n ≤ greatestNumber) (hrest : NoDigit rest) :
    readNumber ⟨text ++ rest, position⟩ = .ok (n, ⟨rest, position + text.length⟩) := by
  obtain ⟨hne, hdigits, hvalue⟩ := h
  -- The digits end where the piece does.
  have hnone : rest.takeWhile Char.isDigit = [] := by
    cases rest with
    | nil => rfl
    | cons c later => simp [noDigit_cons.1 hrest]
  have htake : (text ++ rest).takeWhile Char.isDigit = text := by
    rw [List.takeWhile_append_of_pos hdigits, hnone, List.append_nil]
  simp only [readNumber, htake, hvalue, List.isEmpty_iff, if_neg hne,
    if_neg (Nat.not_lt.2 hn), skip, List.drop_left]

theorem readNumber_all (h : IsNumber text n) (hn : n ≤ greatestNumber) :
    readNumber ⟨text, position⟩ = .ok (n, ⟨[], position + text.length⟩) := by
  have hread : readNumber ⟨text ++ [], position⟩ = _ := readNumber_append h hn noDigit_nil
  rwa [List.append_nil] at hread

/-- What `readName` has read. -/
theorem readName_spec (h : cursor.readName field = .ok (n, after)) :
    ∃ letters, cursor.rest = letters ++ after.rest ∧
      field.valueOfName? (String.ofList letters) = some n := by
  simp only [readName] at h
  split at h
  · simp at h
  · split at h
    case h_1 value hvalue =>
      simp only [Except.ok.injEq, Prod.mk.injEq] at h
      obtain ⟨rfl, rfl⟩ := h
      exact ⟨cursor.rest.take 3, (List.take_append_drop 3 _).symm, hvalue⟩
    all_goals simp at h

theorem readName_append (h : field.valueOfName? (String.ofList text) = some n) :
    readName field ⟨text ++ rest, position⟩ = .ok (n, ⟨rest, position + text.length⟩) := by
  obtain ⟨hlength, hupper, -⟩ := Field.capitals_of_name h
  have htake : (text ++ rest).take 3 = text := List.take_left' hlength
  have hdrop : (text ++ rest).drop 3 = rest := List.drop_left' hlength
  have hall : text.all Char.isUpper = true := List.all_eq_true.2 hupper
  simp only [readName, htake, hlength, hall, h, skip, hdrop]
  simp

/-- What `readValue` has read, if the number is in the field. -/
theorem readValue_spec (h : cursor.readValue field = .ok (n, after))
    (hleast : field.least ≤ n) (hgreatest : n ≤ field.greatest yearLimit) :
    ∃ text, cursor.rest = text ++ after.rest ∧ IsValue yearLimit field text n := by
  simp only [readValue] at h
  split at h
  · split at h
    · obtain ⟨digits, hrest, hnumber⟩ := readNumber_spec h
      exact ⟨digits, hrest, .number hnumber hleast hgreatest⟩
    · split at h
      · obtain ⟨letters, hrest, hname⟩ := readName_spec h
        exact ⟨letters, hrest, .name hname⟩
      · simp at h
  · simp at h

/-- `readValue` takes the whole of a value that no digit follows. -/
theorem readValue_append (hlimit : yearLimit ≤ greatestNumber)
    (h : IsValue yearLimit field text n) (hrest : NoDigit rest) :
    readValue field ⟨text ++ rest, position⟩ = .ok (n, ⟨rest, position + text.length⟩) := by
  have hn : n ≤ greatestNumber :=
    h.bounds.2.trans (field.greatest_le hlimit (by decide))
  cases h with
  | number hnumber =>
    obtain ⟨c, later, rfl⟩ := List.exists_cons_of_ne_nil hnumber.1
    have hc := hnumber.2.1 c (by simp)
    rw [← readNumber_append hnumber hn hrest]
    simp [readValue, peek?, hc]
  | name hname =>
    obtain ⟨hlength, hupper, -⟩ := Field.capitals_of_name hname
    obtain ⟨c, later, rfl⟩ := List.exists_cons_of_length_pos (by omega : 0 < text.length)
    have hc := hupper c (by simp)
    -- A capital is no digit, so the value is read as a name.
    have hdigit := not_isDigit_of_isUpper hc
    rw [← readName_append hname]
    simp [readValue, peek?, hc, hdigit]

theorem readNumber_ne_ok (h : cursor.rest = []) : cursor.readNumber ≠ .ok (n, after) := by
  simp [readNumber, h]

theorem readStep_eq_ok : cursor.readStep field = .ok (n, after) ↔
    cursor.readNumber = .ok (n, after) ∧ 1 ≤ n ∧ n ≤ field.greatestStep := by
  simp only [readStep, guard_eq_ok, bind_eq_ok, List.isEmpty_iff]
  constructor
  · rintro ⟨-, ⟨step, later⟩, hread, hzero, hgreatest, hpure⟩
    cases hpure
    exact ⟨hread, by omega, by omega⟩
  · rintro ⟨hread, hone, hgreatest⟩
    exact ⟨fun hempty => readNumber_ne_ok hempty hread, ⟨n, after⟩, hread, by omega,
      by omega, rfl⟩

theorem readValue_all (hlimit : yearLimit ≤ greatestNumber) (h : IsValue yearLimit field text n) :
    readValue field ⟨text, position⟩ = .ok (n, ⟨[], position + text.length⟩) := by
  have hread : readValue field ⟨text ++ [], position⟩ = _ := readValue_append hlimit h noDigit_nil
  rwa [List.append_nil] at hread

/-- What `readStep` has read. -/
theorem readStep_spec (h : cursor.readStep field = .ok (n, after)) :
    ∃ digits, cursor.rest = digits ++ after.rest ∧ IsStep field digits n := by
  obtain ⟨hread, hone, hgreatest⟩ := readStep_eq_ok.1 h
  obtain ⟨digits, hrest, hnumber⟩ := readNumber_spec hread
  exact ⟨digits, hrest, hnumber, hone, hgreatest⟩

/-- A step that is read to the end is all there was. -/
theorem isStep_of_readStep (h : cursor.readStep field = .ok (n, after)) (hend : after.rest = []) :
    IsStep field cursor.rest n := by
  obtain ⟨digits, hrest, hstep⟩ := readStep_spec h
  rwa [hrest, hend, List.append_nil]

theorem readStep_all (h : IsStep field text n) :
    readStep field ⟨text, position⟩ = .ok (n, ⟨[], position + text.length⟩) := by
  obtain ⟨hnumber, hone, hgreatest⟩ := h
  have hn : n ≤ greatestNumber := hgreatest.trans (field.greatestStep_le.trans (by decide))
  exact readStep_eq_ok.2 ⟨readNumber_all hnumber hn, hone, hgreatest⟩

end Cursor

end Expression

end CronSchedule
