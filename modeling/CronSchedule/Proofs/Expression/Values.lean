import CronSchedule.Proofs.Expression.Field
import CronSchedule.Proofs.Schedule.Allows

/-!
# The values of a field

What the items of a field come to: the members and the marks of the set that
`valueSet` makes are those of the items (`mem_valueSet`), all of them are in the
field (`IsField.bounds`), and there is at least one unless the field leaves the
day to something else (`IsField.not_isEmpty`). What the two day fields choose fits
their values (`IsField.fits_dayOfMonth`, `IsField.fits_dayOfWeek`).
-/

namespace CronSchedule

namespace Expression

open Text

variable {field : Field} {yearLimit n x : Nat} {text : List Char}
variable {item : Item} {items : List Item}

/-! ## The set of a list of items -/

theorem insertAll_marks (set : ValueSet) (values : List Nat) :
    (set.insertAll values).isAll = set.isAll ∧
      (set.insertAll values).isUnspecified = set.isUnspecified := by
  induction values with
  | nil => exact ⟨rfl, rfl⟩
  | cons value rest ih => exact ih

theorem mem_addTo {set : ValueSet} : x ∈ (item.addTo yearLimit field set).values ↔
    x ∈ item.values yearLimit field ∨ x ∈ set.values := by
  cases item <;> exact ValueSet.mem_insertAll

theorem isAll_addTo {set : ValueSet} : (item.addTo yearLimit field set).isAll = true ↔
    item = .all ∨ set.isAll = true := by
  cases item <;>
    simp [Item.addTo, ValueSet.markAll, ValueSet.markUnspecified, (insertAll_marks _ _).1]

theorem isUnspecified_addTo {set : ValueSet} :
    (item.addTo yearLimit field set).isUnspecified = true ↔
      item = .unspecified ∨ set.isUnspecified = true := by
  cases item <;>
    simp [Item.addTo, ValueSet.markAll, ValueSet.markUnspecified, (insertAll_marks _ _).2]

/-- What holds of a set as soon as one item brings it about, holds of the set of
a list when some item of the list does. -/
theorem valueSet_iff {P : ValueSet → Prop} {Q : Item → Prop} (hempty : ¬ P .empty)
    (hstep : ∀ set item, P (Item.addTo yearLimit field set item) ↔ Q item ∨ P set) :
    P (valueSet yearLimit field items) ↔ ∃ item ∈ items, Q item := by
  -- The induction is on the items that are still to be added, whatever the set holds.
  have hfold : ∀ set : ValueSet, P (items.foldl (Item.addTo yearLimit field) set) ↔
      (∃ item ∈ items, Q item) ∨ P set := by
    induction items with
    | nil => simp
    | cons item rest ih =>
      intro set
      rw [List.foldl_cons, ih, hstep, ← or_assoc, List.exists_mem_cons_iff]
      exact or_congr_left or_comm
  rw [valueSet, hfold, or_iff_left hempty]

theorem mem_valueSet : x ∈ (valueSet yearLimit field items).values ↔
    ∃ item ∈ items, x ∈ item.values yearLimit field :=
  valueSet_iff (P := fun set => x ∈ set.values) (by simp [ValueSet.empty]) fun _ _ => mem_addTo

theorem isAll_valueSet : (valueSet yearLimit field items).isAll = true ↔ .all ∈ items := by
  rw [valueSet_iff (P := fun set => set.isAll = true) nofun fun _ _ => isAll_addTo]
  simp

theorem isUnspecified_valueSet :
    (valueSet yearLimit field items).isUnspecified = true ↔ .unspecified ∈ items := by
  rw [valueSet_iff (P := fun set => set.isUnspecified = true) nofun fun _ _ => isUnspecified_addTo]
  simp

/-! ## The values of one item -/

theorem mem_countUp {start stop step : Nat} (h : x ∈ countUp start stop step) :
    start ≤ x ∧ x ≤ stop := by
  unfold countUp at h
  split at h
  · obtain ⟨i, hi, rfl⟩ := List.mem_range'.1 h
    have hi' : i ≤ (stop - start) / step := Nat.lt_succ_iff.1 hi
    have hle := (Nat.mul_le_mul_left step hi').trans (Nat.mul_div_le (stop - start) step)
    omega
  · simp at h

theorem start_mem_countUp {start stop step : Nat} (h : start ≤ stop) :
    start ∈ countUp start stop step := by
  rw [countUp, if_pos h]
  exact List.mem_range'.2 ⟨0, Nat.succ_pos _, rfl⟩

/-- Counting starts at 0 or at 1, and goes through as many values as the cycle has. -/
theorem bounds_of_cycle (yearLimit : Nat) {cycle : Nat} (h : field.cycle? = some cycle) :
    0 < cycle ∧ (field.least = 0 ∧ field.greatest yearLimit + 1 = cycle ∨
      field.least = 1 ∧ field.greatest yearLimit = cycle) := by
  cases field <;> cases h <;> simp [Field.least, Field.greatest]

/-- A value that starts over is in its field. -/
theorem wrap_bounds {cycle count : Nat} (h : field.cycle? = some cycle) :
    field.least ≤ wrap field cycle count ∧ wrap field cycle count ≤ field.greatest yearLimit := by
  have hfield := bounds_of_cycle yearLimit h
  have hmod := Nat.mod_lt count hfield.1
  unfold wrap
  split <;> omega

theorem rangeValues_bounds {start step : Nat} {stop : Option Nat}
    (hstart : field.least ≤ start)
    (hstop : ∀ last ∈ stop, last ≤ field.greatest yearLimit)
    (h : x ∈ rangeValues yearLimit field start stop step) :
    field.least ≤ x ∧ x ≤ field.greatest yearLimit := by
  have hlast : stop.getD (field.greatest yearLimit) ≤ field.greatest yearLimit := by
    cases stop with
    | none => exact le_rfl
    | some last => exact hstop last rfl
  simp only [rangeValues] at h
  split at h
  · have := mem_countUp h
    omega
  · split at h
    · rename_i hcycle
      obtain ⟨count, -, rfl⟩ := List.mem_map.1 h
      exact wrap_bounds hcycle
    · simp at h

/-- A range has a value: it begins with one. -/
theorem rangeValues_ne_nil {start step : Nat} {stop : Option Nat}
    (hyear : field = .year → start ≤ stop.getD (field.greatest yearLimit))
    (hstart : start ≤ field.greatest yearLimit) :
    rangeValues yearLimit field start stop step ≠ [] := by
  simp only [rangeValues]
  split
  · rename_i hle
    exact List.ne_nil_of_mem (start_mem_countUp hle)
  · -- Past its end a range starts over, so it still counts from its start up.
    rename_i hlt
    obtain ⟨cycle, hcycle, hle⟩ : ∃ cycle, field.cycle? = some cycle ∧
        field.greatest yearLimit ≤ cycle := by
      cases field <;> simp_all [Field.cycle?, Field.greatest]
    rw [hcycle]
    refine mt List.map_eq_nil_iff.1 (List.ne_nil_of_mem (start_mem_countUp ?_))
    omega

/-- The values of an item are in its field. -/
theorem ListItem.bounds (h : ListItem yearLimit field text item)
    (hx : x ∈ item.values yearLimit field) :
    field.least ≤ x ∧ x ≤ field.greatest yearLimit := by
  cases h with
  | all => exact mem_countUp hx
  | allStep | step => exact rangeValues_bounds le_rfl (by simp) hx
  | value hvalue =>
    obtain rfl := List.mem_singleton.1 hx
    exact hvalue.bounds
  | range hvalue hvalue' | rangeStep hvalue hvalue' =>
    refine rangeValues_bounds hvalue.bounds.1 ?_ hx
    rintro last ⟨⟩
    exact hvalue'.bounds.2
  | valueStep hvalue => exact rangeValues_bounds hvalue.bounds.1 (by simp) hx

/-- An item of a list has a value. -/
theorem ListItem.values_ne_nil (hfirst : Field.firstYear ≤ yearLimit)
    (h : ListItem yearLimit field text item) : item.values yearLimit field ≠ [] := by
  have hle : field.least ≤ field.greatest yearLimit := by
    cases field <;> simp [Field.least, Field.greatest, hfirst]
  cases h with
  | all => exact List.ne_nil_of_mem (start_mem_countUp hle)
  | allStep | step => exact rangeValues_ne_nil (fun _ => hle) hle
  | value => exact List.cons_ne_nil _ _
  | range hvalue _ hyear | rangeStep hvalue _ hyear =>
    exact rangeValues_ne_nil hyear hvalue.bounds.2
  | valueStep hvalue => exact rangeValues_ne_nil (fun _ => hvalue.bounds.2) hvalue.bounds.2

theorem LoneItem.bounds (h : LoneItem yearLimit field text item)
    (hx : x ∈ item.values yearLimit field) :
    field.least ≤ x ∧ x ≤ field.greatest yearLimit := by
  cases h with
  | unspecified | lastDay | lastDayOffset | lastWorkday | lastWorkdayOffset =>
    simp [Item.values] at hx
  | saturday =>
    obtain rfl := List.mem_singleton.1 hx
    exact ⟨by decide, le_rfl⟩
  | nearestWeekday hvalue | lastWeekday hvalue | nthWeekday hvalue =>
    obtain rfl := List.mem_singleton.1 hx
    exact hvalue.bounds

/-! ## The items of a field -/

/-- Only the day fields have items that stand alone. -/
theorem LoneItem.isDay (h : LoneItem yearLimit field text item) : field.isDay = true := by
  cases h with
  | unspecified hday => exact hday
  | _ => rfl

/-- **The values of a field are in its bounds.** -/
theorem IsField.bounds (h : IsField yearLimit field text items)
    (hx : x ∈ (valueSet yearLimit field items).values) :
    field.least ≤ x ∧ x ≤ field.greatest yearLimit := by
  obtain ⟨item, hitem, hvalue⟩ := mem_valueSet.1 hx
  rcases h with hlone | hall
  · obtain rfl := List.mem_singleton.1 hitem
    exact hlone.bounds hvalue
  · obtain ⟨piece, hpiece⟩ := exists_of_forall₂ hall hitem
    exact hpiece.bounds hvalue

/-- A list has a value. -/
theorem values_ne_nil_of_list (hfirst : Field.firstYear ≤ yearLimit)
    (h : List.Forall₂ (ListItem yearLimit field) (split ',' text) items) :
    (valueSet yearLimit field items).values ≠ [] := by
  cases hs : split ',' text with
  | nil => exact absurd hs (split_ne_nil _ _)
  | cons piece later =>
    rw [hs, List.forall₂_cons_left_iff] at h
    obtain ⟨item, rest, hitem, -, rfl⟩ := h
    obtain ⟨x, hx⟩ := List.exists_mem_of_ne_nil _ (hitem.values_ne_nil hfirst)
    exact List.ne_nil_of_mem (mem_valueSet.2 ⟨item, by simp, hx⟩)

/-- **A field that is not about days has a value.** -/
theorem IsField.values_ne_nil (hfirst : Field.firstYear ≤ yearLimit)
    (h : IsField yearLimit field text items) (hday : field.isDay = false) :
    (valueSet yearLimit field items).values ≠ [] := by
  rcases h with hlone | hlist
  · simp [hlone.isDay] at hday
  · exact values_ne_nil_of_list hfirst hlist

/-- **A field never lacks values**, unless it is `?` or counts from the end of the
month. -/
theorem IsField.not_isEmpty (hfirst : Field.firstYear ≤ yearLimit)
    (h : IsField yearLimit field text items)
    (hempty : (valueSet yearLimit field items).isEmpty = true) :
    field = .dayOfMonth ∧ (fieldDayRule .monthDays items).isLastDayOfMonth = true := by
  rcases h with hlone | hlist
  · cases hlone with
    | lastDay | lastDayOffset | lastWorkday | lastWorkdayOffset => exact ⟨rfl, rfl⟩
    | unspecified | saturday | nearestWeekday | lastWeekday | nthWeekday => cases hempty
  · simp [ValueSet.isEmpty, values_ne_nil_of_list hfirst hlist] at hempty

/-- The choice of the day that an item makes on its own. -/
inductive Item.Chooses : Item → DayRule → Prop
  /-- `L`, `L-k`, `LW` and `L-kW` -/
  | lastDay (offset : Nat) (nearest : Bool) :
    Chooses (.lastDay offset nearest) (.lastDay offset nearest)
  /-- `dW` -/
  | nearestWeekday (day : Nat) : Chooses (.nearestWeekday day) (.nearestWeekday day)
  /-- `vL` -/
  | lastWeekday (weekday : Nat) : Chooses (.lastWeekday weekday) (.lastWeekday weekday)
  /-- `v#m` -/
  | nthWeekday (weekday nth : Nat) : Chooses (.nthWeekday weekday nth) (.nthWeekday weekday nth)

/-- A field that is one item which chooses a day leaves the choice to it. -/
theorem fieldDayRule_of_chooses {listed rule : DayRule} (h : item.Chooses rule) :
    fieldDayRule listed [item] = rule := by
  cases h <;> rfl

/-- Any other field lists days, or all of them. -/
theorem fieldDayRule_of_not_chooses {listed : DayRule}
    (h : ∀ item rule, items = [item] → ¬ item.Chooses rule) :
    fieldDayRule listed items = if .all ∈ items then .any else listed := by
  unfold fieldDayRule
  split
  case h_5 => rfl
  all_goals exact absurd (by constructor) (h _ _ rfl)

/-- An item of a list does not choose a day. -/
theorem ListItem.not_chooses {rule : DayRule} (h : ListItem yearLimit field text item) :
    ¬ item.Chooses rule := by
  intro hchooses
  cases hchooses <;> cases h

/-- The day rule of a list is the one of a plain list, or `any`. -/
theorem fieldDayRule_of_list {listed : DayRule}
    (h : List.Forall₂ (ListItem yearLimit field) (split ',' text) items) :
    fieldDayRule listed items = if .all ∈ items then .any else listed := by
  refine fieldDayRule_of_not_chooses ?_
  rintro item rule rfl
  obtain ⟨piece, hpiece⟩ := exists_of_forall₂ h (List.mem_singleton_self item)
  exact hpiece.not_chooses

/-- The day rule of a list of days or weekdays fits the field. -/
theorem not_all_of_list (hfirst : Field.firstYear ≤ yearLimit)
    (h : List.Forall₂ (ListItem yearLimit field) (split ',' text) items) (hall : .all ∉ items) :
    (valueSet yearLimit field items).values ≠ [] ∧
      (valueSet yearLimit field items).isAll = false :=
  ⟨values_ne_nil_of_list hfirst h, Bool.eq_false_iff.2 (isAll_valueSet.not.2 hall)⟩

/-- **What the days of the month of an expression choose fits them.** -/
theorem IsField.fits_dayOfMonth {other : ValueSet} (hfirst : Field.firstYear ≤ yearLimit)
    (h : IsField yearLimit .dayOfMonth text items) (hgiven : .unspecified ∉ items) :
    (fieldDayRule .monthDays items).Fits (valueSet yearLimit .dayOfMonth items) other := by
  rcases h with hlone | hlist
  · cases hlone with
    | unspecified => simp at hgiven
    | lastDay | lastWorkday => exact ⟨by decide, rfl, rfl⟩
    | lastDayOffset _ hk | lastWorkdayOffset _ hk => exact ⟨hk, rfl, rfl⟩
    | nearestWeekday => rfl
  · rw [fieldDayRule_of_list hlist]
    split
    · trivial
    · rename_i hall
      exact not_all_of_list hfirst hlist hall

/-- **What the weekdays of an expression choose fits them.** -/
theorem IsField.fits_dayOfWeek {other : ValueSet} (hfirst : Field.firstYear ≤ yearLimit)
    (h : IsField yearLimit .dayOfWeek text items) (hgiven : .unspecified ∉ items) :
    (fieldDayRule .weekDays items).Fits other (valueSet yearLimit .dayOfWeek items) := by
  rcases h with hlone | hlist
  · cases hlone with
    | unspecified => simp at hgiven
    | saturday => exact ⟨List.cons_ne_nil _ _, rfl⟩
    | lastWeekday => rfl
    | nthWeekday _ _ hone hfive => exact ⟨rfl, hone, hfive⟩
  · rw [fieldDayRule_of_list hlist]
    split
    · trivial
    · rename_i hall
      exact not_all_of_list hfirst hlist hall

end Expression

end CronSchedule
