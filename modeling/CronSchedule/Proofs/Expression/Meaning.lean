import CronSchedule.Proofs.Expression.Values

/-!
# The meaning of a field

What the items of a field stand for, said by counting and without the arithmetic
of `rangeValues`: `Item.Means` goes from an item to its values, a range being
every n-th of the values that a count from its start to its end meets
(`counted`). The set of a field holds what its items mean
(`IsField.isSetOf_valueSet`), and the choice of the day is the one that the text of
a day field spells (`IsField.spellsDay`). That the grammar gives a text one meaning
only is `IsItem.unique`.
-/

namespace CronSchedule

namespace Expression

open Text

variable {field : Field} {yearLimit n x : Nat} {text : List Char}
variable {item : Item} {items : List Item} {listed : DayRule}

/-! ## What an item means -/

/-- The values from one to another, both included. -/
def span (first last : Nat) : List Nat :=
  List.range' first (last + 1 - first)

/-- What a count from `start` to `stop` meets: where `stop` comes first, it goes up
to the largest value of the field and on from the smallest. -/
def counted (yearLimit : Nat) (field : Field) (start stop : Nat) : List Nat :=
  if start ≤ stop then span start stop
  else span start (field.greatest yearLimit) ++ span field.least stop

/-- A value is the first of some values, or comes a multiple of `n` places after it. -/
def IsEveryNth (n : Nat) (values : List Nat) (x : Nat) : Prop :=
  ∃ i, values[n * i]? = some x

namespace Item

/-- **The values that an item stands for.** -/
def Means (yearLimit : Nat) (field : Field) (x : Nat) : Item → Prop
  | unspecified | lastDay _ _ => False
  | all => x ∈ span field.least (field.greatest yearLimit)
  | value v | nearestWeekday v | lastWeekday v | nthWeekday v _ => x = v
  | range start none n => IsEveryNth n (span start (field.greatest yearLimit)) x
  | range start (some stop) n => IsEveryNth n (counted yearLimit field start stop) x

end Item

/-! ## Counting -/

theorem getElem?_span {first last k : Nat} :
    (span first last)[k]? = some x ↔ x = first + k ∧ x ≤ last := by
  unfold span
  by_cases hk : k < last + 1 - first
  · rw [List.getElem?_range' hk, Option.some.injEq]
    omega
  · rw [List.getElem?_eq_none (by rw [List.length_range']; omega)]
    constructor
    · nofun
    · omega

theorem mem_countUp_iff {start stop step : Nat} (hstep : 0 < step) :
    x ∈ countUp start stop step ↔ ∃ i, x = start + step * i ∧ x ≤ stop := by
  unfold countUp
  split
  · rename_i hle
    rw [List.mem_range']
    refine exists_congr fun i => ?_
    rw [Nat.lt_succ_iff, Nat.le_div_iff_mul_le hstep, Nat.mul_comm i]
    omega
  · rename_i hlt
    refine iff_of_false (by simp) ?_
    rintro ⟨i, rfl, hle⟩
    omega

/-- Every n-th value on the way up. -/
theorem isEveryNth_span {first last : Nat} :
    IsEveryNth n (span first last) x ↔ ∃ i, x = first + n * i ∧ x ≤ last :=
  exists_congr fun _ => getElem?_span

/-- A value of the field is where counting has come to. -/
theorem wrap_of_bounds {cycle count : Nat} (hcycle : field.cycle? = some cycle)
    (hleast : field.least ≤ count) (hgreatest : count ≤ field.greatest yearLimit) :
    wrap field cycle count = count := by
  have hfield := bounds_of_cycle yearLimit hcycle
  unfold wrap
  rcases Nat.lt_or_ge count cycle with hlt | hge
  · rw [Nat.mod_eq_of_lt hlt, if_neg (by omega)]
  · obtain rfl : count = cycle := by omega
    rw [if_pos (by rw [Nat.mod_self]; omega)]

/-- One cycle further on, counting has come to the same value. -/
theorem wrap_add_cycle {cycle count : Nat} :
    wrap field cycle (count + cycle) = wrap field cycle count := by
  unfold wrap
  rw [Nat.add_mod_right]

/-- **A count past the largest value goes on from the smallest**, and the value that
it comes to is the one that `wrap` gives. -/
theorem getElem?_counted {start stop cycle k : Nat} (hcycle : field.cycle? = some cycle)
    (hleast : field.least ≤ start) (hgreatest : start ≤ field.greatest yearLimit)
    (hlt : stop < start) :
    (counted yearLimit field start stop)[k]? = some x ↔
      x = wrap field cycle (start + k) ∧ start + k ≤ stop + cycle := by
  have hfield := bounds_of_cycle yearLimit hcycle
  have hlength : (span start (field.greatest yearLimit)).length =
      field.greatest yearLimit + 1 - start := List.length_range'
  rw [counted, if_neg (by omega), List.getElem?_append, hlength]
  by_cases hk : k < field.greatest yearLimit + 1 - start
  · -- The count is still on the way up.
    rw [if_pos hk, getElem?_span, wrap_of_bounds hcycle (by omega)
      (show start + k ≤ field.greatest yearLimit by omega)]
    omega
  · obtain ⟨later, hlater⟩ : ∃ later, start + k = field.least + later + cycle :=
      ⟨start + k - cycle - field.least, by omega⟩
    rw [if_neg hk, getElem?_span, hlater, wrap_add_cycle]
    by_cases hstop : field.least + later ≤ stop
    · rw [wrap_of_bounds hcycle (by omega)
        (show field.least + later ≤ field.greatest yearLimit by omega)]
      omega
    · constructor <;> omega

/-- **The values of a range are every n-th of those that its count meets**, also on
from the smallest value. -/
theorem mem_rangeValues_iff {start step : Nat} {stop : Option Nat} (hstep : 0 < step)
    (hleast : field.least ≤ start) (hgreatest : start ≤ field.greatest yearLimit)
    (hyear : field = .year → start ≤ stop.getD (field.greatest yearLimit)) :
    x ∈ rangeValues yearLimit field start stop step ↔
      IsEveryNth step (counted yearLimit field start (stop.getD (field.greatest yearLimit))) x := by
  unfold rangeValues
  simp only
  split
  · rename_i hle
    rw [counted, if_pos hle, mem_countUp_iff hstep, isEveryNth_span]
  · rename_i hlt
    obtain ⟨cycle, hcycle⟩ : ∃ cycle, field.cycle? = some cycle := by
      cases field with
      | year => exact absurd (hyear rfl) hlt
      | _ => exact ⟨_, rfl⟩
    rw [hcycle]
    unfold IsEveryNth
    simp only [List.mem_map, mem_countUp_iff hstep,
      getElem?_counted hcycle hleast hgreatest (Nat.lt_of_not_le hlt)]
    constructor
    · rintro ⟨count, ⟨i, rfl, hle⟩, rfl⟩
      exact ⟨i, rfl, hle⟩
    · rintro ⟨i, rfl, hle⟩
      exact ⟨_, ⟨i, rfl, hle⟩, rfl⟩

/-! ## The items of a text -/

/-- An item of a field, from a list or alone. -/
def IsItem (yearLimit : Nat) (field : Field) (text : List Char) (item : Item) : Prop :=
  ListItem yearLimit field text item ∨ LoneItem yearLimit field text item

theorem IsStep.pos (h : IsStep field text n) : 0 < n :=
  h.2.1

/-- **The values of an item of a list are those that it stands for.** -/
theorem ListItem.mem_values_iff (hfirst : Field.firstYear ≤ yearLimit)
    (h : ListItem yearLimit field text item) :
    x ∈ item.values yearLimit field ↔ item.Means yearLimit field x := by
  have hle : field.least ≤ field.greatest yearLimit := by
    cases field <;> simp [Field.least, Field.greatest, hfirst]
  -- A range without an end goes up to the largest value.
  have hup : ∀ {start step}, 0 < step → field.least ≤ start → start ≤ field.greatest yearLimit →
      (x ∈ rangeValues yearLimit field start none step ↔
        IsEveryNth step (span start (field.greatest yearLimit)) x) := by
    intro start step hstep hleast hgreatest
    have hcounted : counted yearLimit field start (field.greatest yearLimit) =
        span start (field.greatest yearLimit) := if_pos hgreatest
    rw [← hcounted]
    exact mem_rangeValues_iff hstep hleast hgreatest fun _ => hgreatest
  cases h with
  | all =>
    show x ∈ countUp field.least (field.greatest yearLimit) 1 ↔ x ∈ span _ _
    rw [mem_countUp_iff Nat.one_pos, List.mem_iff_getElem?]
    simp only [getElem?_span, Nat.one_mul]
  | allStep hstep | step hstep => exact hup hstep.pos le_rfl hle
  | value => exact List.mem_singleton
  | range hvalue _ hyear =>
    exact mem_rangeValues_iff Nat.one_pos hvalue.bounds.1 hvalue.bounds.2 hyear
  | rangeStep hvalue _ hyear hstep =>
    exact mem_rangeValues_iff hstep.pos hvalue.bounds.1 hvalue.bounds.2 hyear
  | valueStep hvalue hstep => exact hup hstep.pos hvalue.bounds.1 hvalue.bounds.2

theorem LoneItem.mem_values_iff (h : LoneItem yearLimit field text item) :
    x ∈ item.values yearLimit field ↔ item.Means yearLimit field x := by
  cases h with
  | unspecified | lastDay | lastDayOffset | lastWorkday | lastWorkdayOffset =>
    exact iff_of_false List.not_mem_nil id
  | nearestWeekday | saturday | lastWeekday | nthWeekday => exact List.mem_singleton

theorem IsItem.mem_values_iff (hfirst : Field.firstYear ≤ yearLimit)
    (h : IsItem yearLimit field text item) :
    x ∈ item.values yearLimit field ↔ item.Means yearLimit field x :=
  h.elim (·.mem_values_iff hfirst) (·.mem_values_iff)

/-- Every item of a field stands between its commas. -/
theorem IsField.forall_isItem (h : IsField yearLimit field text items) :
    List.Forall₂ (IsItem yearLimit field) (split ',' text) items := by
  rcases h with hlone | hlist
  · rw [split_of_not_mem hlone.not_mem]
    exact .cons (.inr hlone) .nil
  · exact hlist.imp fun _ _ => .inl

/-- A list that is related to another one item by item has one of a kind when the
other has one that is related to such. -/
theorem exists_mem_iff_of_forall₂ {α β : Type} {R : α → β → Prop} {as : List α} {bs : List β}
    {P : β → Prop} (h : List.Forall₂ R as bs) (hunique : ∀ {a b b'}, R a b → R a b' → b = b') :
    (∃ b ∈ bs, P b) ↔ ∃ a ∈ as, ∃ b, R a b ∧ P b := by
  induction h with
  | nil => simp
  | @cons a b as bs hab _ ih =>
    have hfirst : (∃ b', R a b' ∧ P b') ↔ P b := by
      constructor
      · rintro ⟨b', hab', hP⟩
        exact hunique hab hab' ▸ hP
      · exact fun hP => ⟨b, hab, hP⟩
    rw [List.exists_mem_cons_iff, List.exists_mem_cons_iff, ih, hfirst]

section

variable (hfirst : Field.firstYear ≤ yearLimit) (hlimit : yearLimit ≤ Cursor.greatestNumber)
include hfirst hlimit

/-- **A text is one item at most**: reading it gives one result. -/
theorem IsItem.unique {other : Item} (h : IsItem yearLimit field text item)
    (h' : IsItem yearLimit field text other) : item = other := by
  have hread : ∀ {item}, readItem yearLimit field ⟨0, text⟩ = .ok item ↔
      IsItem yearLimit field text item := readItem_eq_ok hfirst hlimit
  exact Except.ok.inj ((hread.2 h).symm.trans (hread.2 h'))

/-- **The items of a text are fixed.** -/
theorem IsField.unique {others : List Item} (h : IsField yearLimit field text items)
    (h' : IsField yearLimit field text others) : items = others := by
  have hread : ∀ {items}, readItems yearLimit field ⟨0, text⟩ = .ok items ↔
      IsField yearLimit field text items := readItems_eq_ok hfirst hlimit
  exact Except.ok.inj ((hread.2 h).symm.trans (hread.2 h'))

end

/-! ## The set of a field -/

/-- **The set that the text of a field spells**: its members are the values that the
items between the commas stand for, and it is marked when one of them is `*`. -/
structure IsSetOf (yearLimit : Nat) (field : Field) (text : List Char) (set : ValueSet) : Prop where
  mem_iff : ∀ x, x ∈ set.values ↔
    ∃ piece ∈ split ',' text, ∃ item, IsItem yearLimit field piece item ∧
      item.Means yearLimit field x
  isAll_iff : set.isAll = true ↔ ['*'] ∈ split ',' text

section

variable (hfirst : Field.firstYear ≤ yearLimit) (hlimit : yearLimit ≤ Cursor.greatestNumber)
include hfirst hlimit

theorem IsField.all_mem_iff (h : IsField yearLimit field text items) :
    .all ∈ items ↔ ['*'] ∈ split ',' text := by
  have hitems := exists_mem_iff_of_forall₂ (P := (· = .all)) h.forall_isItem
    (IsItem.unique hfirst hlimit)
  simp only [exists_eq_right] at hitems
  rw [hitems]
  constructor
  · rintro ⟨piece, hpiece, hall⟩
    rcases hall with hall | hall <;> cases hall
    exact hpiece
  · exact fun hpiece => ⟨_, hpiece, .inl .all⟩

/-- **What the items of a field add up to is the set that its text spells.** -/
theorem IsField.isSetOf_valueSet (h : IsField yearLimit field text items) :
    IsSetOf yearLimit field text (valueSet yearLimit field items) where
  mem_iff x := by
    rw [mem_valueSet, exists_mem_iff_of_forall₂ h.forall_isItem (IsItem.unique hfirst hlimit)]
    refine exists_congr fun piece => and_congr_right fun _ => exists_congr fun item => ?_
    exact and_congr_right fun hitem => hitem.mem_values_iff hfirst
  isAll_iff := isAll_valueSet.trans (h.all_mem_iff hfirst hlimit)

end

/-! ## The marks -/

/-- **A field with a `*` in its list has all values there are.** -/
theorem IsField.mem_valueSet_of_all (h : IsField yearLimit field text items) (hall : .all ∈ items) :
    x ∈ (valueSet yearLimit field items).values ↔
      field.least ≤ x ∧ x ≤ field.greatest yearLimit := by
  constructor
  · intro hx
    exact h.bounds hx
  · rintro ⟨hleast, hgreatest⟩
    refine mem_valueSet.2 ⟨.all, hall, (mem_countUp_iff Nat.one_pos).2 ⟨x - field.least, ?_⟩⟩
    omega

/-- **A field that is left to the other one is a day field, and has only its mark.** -/
theorem IsField.valueSet_of_unspecified (h : IsField yearLimit field text items)
    (hleft : .unspecified ∈ items) :
    field.isDay = true ∧ valueSet yearLimit field items = ValueSet.empty.markUnspecified := by
  rcases h with hlone | hlist
  · obtain rfl := List.mem_singleton.1 hleft
    exact ⟨hlone.isDay, rfl⟩
  · obtain ⟨piece, hpiece⟩ := exists_of_forall₂ hlist hleft
    cases hpiece

/-! ## The choice of the day -/

/-- **The choice that the text of a day field spells**; `listed` is the one of a plain
list. -/
inductive SpellsDay (yearLimit : Nat) (field : Field) (listed : DayRule) (text : List Char) :
    DayRule → Prop
  /-- The field is an item that chooses a day. -/
  | single {item : Item} {rule : DayRule} : IsItem yearLimit field text item →
      item.Chooses rule → SpellsDay yearLimit field listed text rule
  /-- One of its items is `*`. -/
  | any : ['*'] ∈ split ',' text → SpellsDay yearLimit field listed text .any
  /-- Otherwise it lists days. -/
  | listed : (∀ item rule, IsItem yearLimit field text item → ¬ item.Chooses rule) →
      ['*'] ∉ split ',' text → SpellsDay yearLimit field listed text listed

/-- **The choice that the texts of the two day fields spell**: that of the one which is
not `?`. -/
inductive SpellsDayRule (yearLimit : Nat) (dayOfMonth dayOfWeek : List Char) : DayRule → Prop
  /-- The days of the month choose. -/
  | monthDays {rule : DayRule} : dayOfMonth ≠ ['?'] → dayOfWeek = ['?'] →
      SpellsDay yearLimit .dayOfMonth .monthDays dayOfMonth rule →
      SpellsDayRule yearLimit dayOfMonth dayOfWeek rule
  /-- The days of the week choose. -/
  | weekDays {rule : DayRule} : dayOfMonth = ['?'] → dayOfWeek ≠ ['?'] →
      SpellsDay yearLimit .dayOfWeek .weekDays dayOfWeek rule →
      SpellsDayRule yearLimit dayOfMonth dayOfWeek rule
  /-- Neither does. -/
  | neither : dayOfMonth = ['?'] → dayOfWeek = ['?'] →
      SpellsDayRule yearLimit dayOfMonth dayOfWeek .any

/-- **The choice that is read off the items is the one that the text spells.** -/
theorem IsField.spellsDay (hfirst : Field.firstYear ≤ yearLimit)
    (hlimit : yearLimit ≤ Cursor.greatestNumber) (h : IsField yearLimit field text items) :
    SpellsDay yearLimit field listed text (fieldDayRule listed items) := by
  by_cases hsingle : ∃ item rule, IsItem yearLimit field text item ∧ item.Chooses rule
  · obtain ⟨item, rule, hitem, hchooses⟩ := hsingle
    have hlone := hitem.resolve_left fun hlist => hlist.not_chooses hchooses
    obtain rfl := h.unique hfirst hlimit (.lone hlone)
    rw [fieldDayRule_of_chooses hchooses]
    exact .single hitem hchooses
  · have hno : ∀ item rule, IsItem yearLimit field text item → ¬ item.Chooses rule :=
      fun item rule hitem hchooses => hsingle ⟨item, rule, hitem, hchooses⟩
    have hplain : fieldDayRule listed items = if .all ∈ items then .any else listed := by
      rcases h with hlone | hlist
      · refine fieldDayRule_of_not_chooses ?_
        rintro other rule ⟨⟩
        exact hno _ rule (.inr hlone)
      · exact fieldDayRule_of_list hlist
    rw [hplain]
    split
    · rename_i hall
      exact .any ((h.all_mem_iff hfirst hlimit).1 hall)
    · rename_i hall
      exact .listed hno (mt (h.all_mem_iff hfirst hlimit).2 hall)

end Expression

end CronSchedule
