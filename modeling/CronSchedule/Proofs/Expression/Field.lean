import CronSchedule.Proofs.Expression.Item
import CronSchedule.Proofs.Text.Pieces

/-!
# Reading a field

`readItems` accepts a field exactly when the grammar does, with the same items
(`readItems_eq_ok`). What decides about a list are the characters that only an
item which stands alone can hold (`IsMark`): `listFault?` asks for them in the
text, where an item of a list has none and any other item has one.
-/

namespace CronSchedule

namespace Expression

open Text

/-- A computation for each member of a list succeeds when all of them do. -/
theorem mapM_eq_ok {ε α β : Type} {f : α → Except ε β} {as : List α} {bs : List β} :
    as.mapM f = .ok bs ↔ List.Forall₂ (fun a b => f a = .ok b) as bs := by
  induction as generalizing bs with
  | nil => simp [pure_eq_ok]
  | cons a rest ih =>
    simp only [List.mapM_cons, bind_eq_ok, pure_eq_ok, ih, List.forall₂_cons_left_iff]
    constructor
    · rintro ⟨b, hb, later, hlater, rfl⟩
      exact ⟨b, later, hb, hlater, rfl⟩
    · rintro ⟨b, later, hb, hlater, rfl⟩
      exact ⟨b, hb, later, hlater, rfl⟩

/-- It fails at the first member for which it does. -/
theorem mapM_eq_error {ε α β : Type} {f : α → Except ε β} {as : List α} {e : ε} :
    as.mapM f = .error e ↔ ∃ earlier a later, as = earlier ++ a :: later ∧
      (∀ other ∈ earlier, ∃ b, f other = .ok b) ∧ f a = .error e := by
  induction as with
  | nil => simp [pure, Except.pure]
  | cons first rest ih =>
    simp only [List.mapM_cons, bind_eq_error, ih]
    constructor
    · rintro (hfirst | ⟨b, hfirst, ⟨earlier, a, later, rfl, hearlier, ha⟩ | ⟨_, -, hpure⟩⟩)
      · exact ⟨[], first, rest, rfl, by simp, hfirst⟩
      · exact ⟨first :: earlier, a, later, rfl, List.forall_mem_cons.2 ⟨⟨b, hfirst⟩, hearlier⟩, ha⟩
      · cases hpure
    · rintro ⟨_ | ⟨_, earlier⟩, a, later, heq, hearlier, ha⟩
      · obtain ⟨rfl, rfl⟩ := List.cons.inj heq
        exact .inl ha
      · obtain ⟨rfl, rfl⟩ := List.cons.inj heq
        obtain ⟨⟨b, hb⟩, hearlier⟩ := List.forall_mem_cons.1 hearlier
        exact .inr ⟨b, hb, .inl ⟨earlier, a, later, rfl, hearlier, ha⟩⟩

theorem Token.map_items (token : Token) : token.items.map (·.chars) = split ',' token.chars := by
  simp only [Token.items, List.map_map]
  exact map_withOffsets _ _

variable {field : Field} {yearLimit n offset : Nat} {text chars : List Char}
variable {item : Item} {items : List Item} {token : Token}

/-- A character that only an item which stands alone can hold. -/
def IsMark (field : Field) (c : Char) : Prop :=
  c = '?' ∨ field = .dayOfMonth ∧ (c = 'L' ∨ c = 'W') ∨ field = .dayOfWeek ∧ (c = 'L' ∨ c = '#')

theorem not_mark_split : (∀ piece ∈ split ',' chars, ∀ c ∈ piece, ¬ IsMark field c) ↔
    ∀ c ∈ chars, ¬ IsMark field c := by
  have hcomma : ∀ {c}, IsMark field c → c ≠ ',' := by
    rintro c (rfl | ⟨-, rfl | rfl⟩ | ⟨-, rfl | rfl⟩) <;> decide
  constructor
  · intro h c hc hmark
    obtain ⟨piece, hpiece, hmem⟩ := (exists_mem_split (hcomma hmark)).2 hc
    exact h piece hpiece c hmem hmark
  · exact fun h piece hpiece c hc hmark =>
      h c ((exists_mem_split (hcomma hmark)).1 ⟨piece, hpiece, hc⟩) hmark

/-- A list is at fault when it holds a mark. -/
theorem listFault?_of_mem (hlist : ',' ∈ chars) :
    listFault? field chars = none ↔ ∀ c ∈ chars, ¬ IsMark field c := by
  have hcount : '#' ∉ chars → chars.count '#' ≤ 1 := fun h => by
    simp [List.count_eq_zero_of_not_mem h]
  cases field <;> simp [listFault?, hlist, IsMark] <;> grind

/-- A single item is only at fault when it holds `#` twice. -/
theorem listFault?_of_not_mem (hlist : ',' ∉ chars) :
    listFault? field chars = none ↔ (field = .dayOfWeek → chars.count '#' ≤ 1) := by
  cases field <;> simp [listFault?, hlist]

theorem IsNumber.not_mark (field : Field) (h : IsNumber text n) :
    ∀ c ∈ text, ¬ IsMark field c := by
  intro c hc
  have := h.2.1 c hc
  rintro (rfl | ⟨-, rfl | rfl⟩ | ⟨-, rfl | rfl⟩) <;> simp at this

theorem IsValue.not_mark (h : IsValue yearLimit field text n) :
    ∀ c ∈ text, ¬ IsMark field c := by
  cases h with
  | number hnumber => exact hnumber.not_mark field
  | name hname =>
    intro c hc
    have := (Field.capitals_of_name hname).2.1 c hc
    rintro (rfl | ⟨rfl, -⟩ | ⟨rfl, rfl | rfl⟩)
    · simp at this
    · simp [Field.valueOfName?, Field.valueNames] at hname
    · exact Field.not_mem_of_weekday hname hc
    · simp at this

/-- An item of a list holds no mark. -/
theorem ListItem.not_mark (h : ListItem yearLimit field text item) :
    ∀ c ∈ text, ¬ IsMark field c := by
  have hsign : ¬ IsMark field '*' ∧ ¬ IsMark field '/' ∧ ¬ IsMark field '-' := by simp [IsMark]
  cases h with
  | all => simpa using hsign.1
  | allStep hstep =>
    have := hstep.1.not_mark field
    grind
  | step hstep =>
    have := hstep.1.not_mark field
    grind
  | value hvalue => exact hvalue.not_mark
  | range hvalue hvalue' =>
    have := hvalue.not_mark
    have := hvalue'.not_mark
    grind
  | rangeStep hvalue hvalue' _ hstep =>
    have := hvalue.not_mark
    have := hvalue'.not_mark
    have := hstep.1.not_mark field
    grind
  | valueStep hvalue hstep =>
    have := hvalue.not_mark
    have := hstep.1.not_mark field
    grind

/-- An item that stands alone holds a mark. -/
theorem LoneItem.exists_mark (h : LoneItem yearLimit field text item) :
    ∃ c ∈ text, IsMark field c := by
  cases h with
  | unspecified => exact ⟨'?', by simp, .inl rfl⟩
  | lastDay | lastDayOffset | lastWorkday | lastWorkdayOffset =>
    exact ⟨'L', by simp, .inr (.inl ⟨rfl, .inl rfl⟩)⟩
  | nearestWeekday => exact ⟨'W', by simp, .inr (.inl ⟨rfl, .inr rfl⟩)⟩
  | saturday | lastWeekday => exact ⟨'L', by simp, .inr (.inr ⟨rfl, .inl rfl⟩)⟩
  | nthWeekday => exact ⟨'#', by simp, .inr (.inr ⟨rfl, .inr rfl⟩)⟩

theorem IsNumber.not_mem (h : IsNumber text n) {c : Char} (hc : c.isDigit = false) : c ∉ text :=
  fun hmem => by simp [h.2.1 c hmem] at hc

theorem IsValue.not_mem (h : IsValue yearLimit field text n) {c : Char} (hdigit : c.isDigit = false)
    (hupper : c.isUpper = false) : c ∉ text := by
  cases h with
  | number hnumber => exact hnumber.not_mem hdigit
  | name hname =>
    exact fun hmem => by simp [(Field.capitals_of_name hname).2.1 c hmem] at hupper

/-- An item that stands alone holds no comma. -/
theorem LoneItem.not_mem (h : LoneItem yearLimit field text item) : ',' ∉ text := by
  cases h with
  | unspecified | lastDay | lastWorkday | saturday => decide
  | lastDayOffset hnumber => simp [hnumber.not_mem]
  | lastWorkdayOffset hnumber => simp [hnumber.not_mem]
  | nearestWeekday hvalue => simp [hvalue.not_mem]
  | lastWeekday hvalue => simp [hvalue.not_mem]
  | nthWeekday hvalue hnumber => simp [hvalue.not_mem, hnumber.not_mem]

theorem LoneItem.listFault? (h : LoneItem yearLimit field text item) :
    listFault? field text = none := by
  refine (listFault?_of_not_mem h.not_mem).2 fun hfield => ?_
  cases h with
  | unspecified | saturday => decide
  | lastDay | lastDayOffset | lastWorkday | lastWorkdayOffset | nearestWeekday =>
    exact absurd hfield (by decide)
  | lastWeekday hvalue => simp [hvalue.not_mem, List.count_eq_zero_of_not_mem]
  | nthWeekday hvalue hnumber =>
    simp [hvalue.not_mem, hnumber.not_mem, List.count_eq_zero_of_not_mem]

theorem exists_of_forall₂ {α β : Type} {R : α → β → Prop} {as : List α} {bs : List β} {b : β}
    (h : List.Forall₂ R as bs) (hb : b ∈ bs) : ∃ a, R a b := by
  induction h with
  | nil => simp at hb
  | cons hR _ ih =>
    rcases List.mem_cons.1 hb with rfl | hb
    · exact ⟨_, hR⟩
    · exact ih hb

theorem ListItem.ne_nil (h : ListItem yearLimit field text item) : text ≠ [] := by
  cases h with
  | value hvalue =>
    obtain ⟨c, rest, rfl, -⟩ := hvalue.head
    exact List.cons_ne_nil _ _
  | _ => simp

/-- A field is never empty. -/
theorem IsField.ne_nil (h : IsField yearLimit field text items) : text ≠ [] := by
  rintro rfl
  rcases h with hlone | hlist
  · obtain ⟨c, hc, -⟩ := hlone.exists_mark
    exact List.not_mem_nil hc
  · obtain ⟨item, rest, hitem, -, -⟩ := List.forall₂_cons_left_iff.1 hlist
    exact hitem.ne_nil rfl

/-- **A list of two parts** has the items of both, and each of them is a list. -/
theorem IsField.exists_of_append {first second : List Char}
    (h : IsField yearLimit field (first ++ ',' :: second) items) :
    ∃ earlier later, items = earlier ++ later ∧
      List.Forall₂ (ListItem yearLimit field) (split ',' first) earlier ∧
      List.Forall₂ (ListItem yearLimit field) (split ',' second) later := by
  rcases h with hlone | hlist
  · exact absurd (by simp) hlone.not_mem
  · rw [split_append] at hlist
    exact ⟨_, _, (List.take_append_drop (split ',' first).length items).symm,
      (List.forall₂_take_append _ _ _ hlist.flip).flip,
      (List.forall₂_drop_append _ _ _ hlist.flip).flip⟩

/-- **What has been read is in the grammar**, item by item. -/
theorem readItems_spec (h : readItems yearLimit field token = .ok items) (hitem : item ∈ items) :
    ∃ piece, ListItem yearLimit field piece item ∨ LoneItem yearLimit field piece item := by
  unfold readItems at h
  split at h
  · simp at h
  · obtain ⟨piece, hread⟩ := exists_of_forall₂ (mapM_eq_ok.1 h) hitem
    exact ⟨piece.chars, readItem_spec hread⟩

section Complete

variable (hfirst : Field.firstYear ≤ yearLimit) (hlimit : yearLimit ≤ Cursor.greatestNumber)

include hfirst hlimit

theorem readItem_eq_ok : readItem yearLimit field token = .ok item ↔
    ListItem yearLimit field token.chars item ∨ LoneItem yearLimit field token.chars item :=
  ⟨readItem_spec, fun h => h.elim (readItem_listItem hfirst hlimit) (readItem_loneItem hlimit)⟩

/-- **A field is read exactly when it is in the grammar**, with the same items. -/
theorem readItems_eq_ok : readItems yearLimit field token = .ok items ↔
    IsField yearLimit field token.chars items := by
  have hitems : token.items.mapM (readItem yearLimit field) = .ok items ↔
      List.Forall₂ (fun text item => ListItem yearLimit field text item ∨
        LoneItem yearLimit field text item) (split ',' token.chars) items := by
    rw [mapM_eq_ok, ← Token.map_items, List.forall₂_map_left_iff]
    simp only [readItem_eq_ok hfirst hlimit]
  have hread : readItems yearLimit field token = .ok items ↔
      listFault? field token.chars = none ∧
        token.items.mapM (readItem yearLimit field) = .ok items := by
    unfold readItems
    split <;> simp_all
  rw [hread, hitems]
  constructor
  · -- Without a fault, the items of a list are those that may stand in one.
    rintro ⟨hfault, hall⟩
    by_cases hlist : ',' ∈ token.chars
    · have hmarks := not_mark_split.2 ((listFault?_of_mem hlist).1 hfault)
      refine .list (((List.forall₂_and_left _ _).2 ⟨hmarks, hall⟩).imp fun piece item h => ?_)
      refine h.2.resolve_right fun hlone => ?_
      obtain ⟨c, hc, hmark⟩ := hlone.exists_mark
      exact h.1 c hc hmark
    · rw [split_of_not_mem hlist, List.forall₂_cons_left_iff] at hall
      obtain ⟨item, rest, hitem, hrest, rfl⟩ := hall
      obtain rfl := List.forall₂_nil_left_iff.1 hrest
      rcases hitem with hitem | hlone
      · exact .list (split_of_not_mem hlist ▸ .cons hitem .nil)
      · exact .lone hlone
  · -- And neither a single item nor a list of the grammar is at fault.
    rintro (hlone | hall)
    · refine ⟨hlone.listFault?, ?_⟩
      rw [split_of_not_mem hlone.not_mem]
      exact .cons (.inr hlone) .nil
    · have hmarked : List.Forall₂ (fun piece item => (∀ c ∈ piece, ¬ IsMark field c) ∧
          ListItem yearLimit field piece item) (split ',' token.chars) items :=
        hall.imp fun _ _ h => ⟨h.not_mark, h⟩
      have hmarks := not_mark_split.1 ((List.forall₂_and_left _ _).1 hmarked).1
      refine ⟨?_, hall.imp fun piece item h => .inl h⟩
      by_cases hlist : ',' ∈ token.chars
      · exact (listFault?_of_mem hlist).2 hmarks
      · refine (listFault?_of_not_mem hlist).2 fun hfield => ?_
        have hnth : '#' ∉ token.chars := fun hmem =>
          hmarks '#' hmem (.inr (.inr ⟨hfield, .inr rfl⟩))
        simp [List.count_eq_zero_of_not_mem hnth]

end Complete

end Expression

end CronSchedule
