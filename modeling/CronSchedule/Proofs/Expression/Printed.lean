import CronSchedule.Proofs.Expression.Meaning
import Mathlib.Data.List.Sort

/-!
# Fields in their expanded form

The text of a set is a field of the grammar (`IsField.printed`): `?`, `*`, or the values of the
set between commas. Its items are `printedItems`, and they make up the set again
(`IsField.valueSet_printed`), since a mark says all that there is to say about the values. A
field that lists days keeps its choice of the day (`IsField.fieldDayRule_printed`).
-/

namespace CronSchedule

/-- Sets with the same members and the same marks are the same. -/
theorem ValueSet.eq_of_mem_iff {a b : ValueSet} (hvalues : ∀ x, x ∈ a.values ↔ x ∈ b.values)
    (hall : a.isAll = b.isAll) (hleft : a.isUnspecified = b.isUnspecified) : a = b := by
  obtain ⟨values, hsorted, _, _⟩ := a
  obtain ⟨values', hsorted', _, _⟩ := b
  obtain rfl : values = values' := hsorted.eq_of_mem_iff hsorted' hvalues
  subst hall hleft
  rfl

namespace Expression

open Text

variable {field : Field} {yearLimit n : Nat} {text : List Char} {items : List Item}
variable {set : ValueSet} {listed : DayRule}

/-- The items that the text of a set is written with. -/
def printedItems (set : ValueSet) : List Item :=
  if set.isUnspecified then [.unspecified]
  else if set.isAll then [.all]
  else set.values.map .value

theorem unspecified_mem_printedItems : .unspecified ∈ printedItems set ↔ set.isUnspecified := by
  unfold printedItems
  split
  · simp [*]
  · split <;> simp [*]

theorem all_mem_printedItems (hleft : ¬ set.isUnspecified) :
    .all ∈ printedItems set ↔ set.isAll := by
  unfold printedItems
  rw [if_neg hleft]
  split <;> simp [*]

/-- A number is written with its decimal digits. -/
theorem isNumber_toString (n : Nat) : IsNumber (toString n).toList n := by
  rw [Nat.toString_eq_ofList_toDigits, String.toList_ofList]
  exact ⟨Nat.toDigits_ne_nil, fun c hc => Nat.isDigit_of_mem_toDigits (by decide) (by decide) hc,
    Nat.ofDigitChars_ten_toDigits⟩

/-- **The items of the expanded form make up the set.** -/
theorem IsField.valueSet_printed (h : IsField yearLimit field text items) :
    valueSet yearLimit field (printedItems (valueSet yearLimit field items)) =
      valueSet yearLimit field items := by
  by_cases hleft : .unspecified ∈ items
  · rw [(h.valueSet_of_unspecified hleft).2]
    rfl
  · have hmark : ¬ (valueSet yearLimit field items).isUnspecified :=
      isUnspecified_valueSet.not.2 hleft
    refine ValueSet.eq_of_mem_iff (fun x => ?_) ?_ ?_
    · unfold printedItems
      rw [if_neg hmark]
      split
      · rename_i hall
        have hstar : IsField yearLimit field ['*'] [.all] := .list (.cons .all .nil)
        rw [hstar.mem_valueSet_of_all List.mem_cons_self,
          h.mem_valueSet_of_all (isAll_valueSet.1 hall)]
      · simp [mem_valueSet, Item.values]
    · rw [Bool.eq_iff_iff, isAll_valueSet, all_mem_printedItems hmark]
    · rw [Bool.eq_iff_iff, isUnspecified_valueSet, unspecified_mem_printedItems]

/-- **The expanded form of a field is in the grammar**, if there is anything to write. -/
theorem IsField.printed (h : IsField yearLimit field text items)
    (hne : ¬ (valueSet yearLimit field items).isEmpty) :
    IsField yearLimit field (valueSet yearLimit field items).text.toList
      (printedItems (valueSet yearLimit field items)) := by
  unfold ValueSet.text printedItems
  split
  · rename_i hleft
    exact .lone (.unspecified (h.valueSet_of_unspecified (isUnspecified_valueSet.1 hleft)).1)
  · rename_i hleft
    split
    · exact .list (.cons .all .nil)
    · have hvalues : (valueSet yearLimit field items).values ≠ [] := by
        simpa [ValueSet.isEmpty, hleft] using hne
      rw [String.toList_intercalate, List.map_map]
      refine .list ?_
      rw [show ",".toList = [','] from rfl, split_intercalate (by simpa using hvalues)]
      · rw [List.forall₂_map_left_iff, List.forall₂_map_right_iff, List.forall₂_same]
        intro n hn
        obtain ⟨hleast, hgreatest⟩ := h.bounds hn
        exact .value (.number (isNumber_toString n) hleast hgreatest)
      · intro piece hpiece
        obtain ⟨n, -, rfl⟩ := List.mem_map.1 hpiece
        exact (isNumber_toString n).not_mem (by decide)

/-- **A field that lists days still lists them**, or all of them. -/
theorem fieldDayRule_printed (hleft : .unspecified ∉ items)
    (hlist : ∀ item rule, items = [item] → ¬ item.Chooses rule) :
    fieldDayRule listed (printedItems (valueSet yearLimit field items)) =
      fieldDayRule listed items := by
  have hmark : ¬ (valueSet yearLimit field items).isUnspecified :=
    isUnspecified_valueSet.not.2 hleft
  have hprinted : ∀ item rule, printedItems (valueSet yearLimit field items) = [item] →
      ¬ item.Chooses rule := by
    intro item rule heq hchooses
    have hmem : item ∈ printedItems (valueSet yearLimit field items) := heq ▸ List.mem_cons_self
    unfold printedItems at hmem
    rw [if_neg hmark] at hmem
    split at hmem
    · obtain rfl := List.mem_singleton.1 hmem
      cases hchooses
    · obtain ⟨n, -, rfl⟩ := List.mem_map.1 hmem
      cases hchooses
  rw [fieldDayRule_of_not_chooses hlist, fieldDayRule_of_not_chooses hprinted]
  simp only [all_mem_printedItems hmark, isAll_valueSet]

end Expression

end CronSchedule
