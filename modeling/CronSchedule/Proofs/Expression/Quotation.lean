import CronSchedule.Expression.Error
import Mathlib.Data.List.Infix

/-!
# What the messages quote

Five of the messages about an expression quote what was found in it (`Quotes`). No other
message reads like one of these, and none of them like another, so the quotation can be
told from the fault (`quotes_iff`).
-/

namespace CronSchedule

namespace Fault

variable {fault : Fault} {quoted other head tail : String}

/-- How a message that quotes the text begins, and how it ends after the quotation. -/
def quotingMessages : List (String × String) := [
  ("Unexpected character: '", "'"),
  ("Illegal characters for this position: '", "'"),
  ("Invalid Month value: '", "'"),
  ("Invalid Day-of-Week value: '", "'"),
  ("Numeric value '", "' is too large")]

/-- **The message of a fault quotes a text.** -/
def Quotes (fault : Fault) (quoted : String) : Prop :=
  ∃ ends ∈ quotingMessages, fault.message = ends.1 ++ quoted ++ ends.2

/-- What a fault has found in the text and quotes. -/
def quotation? : Fault → Option String
  | unexpected c => some (String.singleton c)
  | notAName letters | unknownMonth letters | unknownWeekday letters => some letters
  | numberTooLarge digits => some digits
  | _ => none

theorem quotes_of_quotation? (h : fault.quotation? = some quoted) : fault.Quotes quoted := by
  cases fault <;> cases h
  case unexpected c => exact ⟨("Unexpected character: '", "'"), by decide, rfl⟩
  case notAName =>
    exact ⟨("Illegal characters for this position: '", "'"), by decide, rfl⟩
  case unknownMonth => exact ⟨("Invalid Month value: '", "'"), by decide, rfl⟩
  case unknownWeekday => exact ⟨("Invalid Day-of-Week value: '", "'"), by decide, rfl⟩
  case numberTooLarge => exact ⟨("Numeric value '", "' is too large"), by decide, rfl⟩

theorem message_begins (h : fault.message = head ++ quoted ++ tail) :
    head.toList <+: fault.message.toList := by
  rw [h, String.toList_append, String.toList_append, List.append_assoc]
  exact List.prefix_append _ _

/-- No two of the messages that quote the text begin alike, so there is one way to read such
a message. -/
theorem Quotes.unique (h : fault.Quotes quoted) (h' : fault.Quotes other) : quoted = other := by
  obtain ⟨ends, hends, heq⟩ := h
  obtain ⟨ends', hends', heq'⟩ := h'
  have hfree : ∀ a ∈ quotingMessages, ∀ b ∈ quotingMessages,
      a.1.toList <+: b.1.toList → a = b := by
    simp [quotingMessages]
  obtain rfl : ends = ends' := by
    rcases List.prefix_or_prefix_of_prefix (message_begins heq) (message_begins heq') with hle | hle
    · exact hfree _ hends _ hends' hle
    · exact (hfree _ hends' _ hends hle).symm
  simpa [String.ext_iff] using heq.symm.trans heq'

/-- How the other messages begin. -/
def plainHeads : List (List Char) := [
  ['\''], ['A', ' '], ['D', 'a'], ['E'], ['H'], ['I', 'n', 'c'], ['M'], ['N', 'o'], ['O'], ['S'],
  ['T'], ['Y'], "Illegal character ".toList, "Unexpected e".toList]

theorem begins_of_eq {text : String} {first rest : List Char}
    (h : text = String.ofList (first ++ rest)) : first <+: text.toList := by
  rw [h, String.toList_ofList]
  exact List.prefix_append _ _

theorem begins_of_eq_append {first rest : List Char} (h : head = String.ofList (first ++ rest))
    (tail : String) : first <+: (head ++ tail).toList := by
  rw [String.toList_append]
  exact (begins_of_eq h).trans (List.prefix_append _ _)

/-- **A message without a quotation begins in a way of its own.** -/
theorem exists_plainHead (h : fault.quotation? = none) :
    ∃ head ∈ plainHeads, head <+: fault.message.toList := by
  cases fault with
  | tooFewFields | unexpectedEnd =>
    exact ⟨"Unexpected e".toList, by simp [plainHeads], by delta message; simp⟩
  | afterUnspecified =>
    exact ⟨"Illegal character ".toList, by simp [plainHeads], by delta message; simp⟩
  | tooManyFields => exact ⟨['E'], by simp [plainHeads], begins_of_eq rfl⟩
  | emptyItem => exact ⟨['E'], by simp [plainHeads], by delta message; simp [toString]⟩
  | unspecifiedInList | unspecifiedOutsideDays | lastNotAllowed | nearestWeekdayNotAllowed
    | nthWeekdayNotAllowed | missingStep =>
    exact ⟨['\''], by simp [plainHeads], begins_of_eq rfl⟩
  | lastDayInList | nearestWeekdayInList | lastWeekdayInList | severalNthWeekdays
    | nthWeekdayInList | yearsReversed =>
    exact ⟨['S'], by simp [plainHeads], begins_of_eq rfl⟩
  | bothDayFields => exact ⟨['S'], by simp [plainHeads], begins_of_eq_append rfl _⟩
  | lastDayOffsetTooLarge => exact ⟨['O'], by simp [plainHeads], begins_of_eq rfl⟩
  | nearestWeekdayBeyondMonth =>
    exact ⟨['T'], by simp [plainHeads], begins_of_eq_append rfl _⟩
  | nthOutOfRange => exact ⟨['A', ' '], by simp [plainHeads], begins_of_eq rfl⟩
  | zeroStep => exact ⟨['I', 'n', 'c'], by simp [plainHeads], begins_of_eq rfl⟩
  | stepTooLarge =>
    exact ⟨['I', 'n', 'c'], by simp [plainHeads], by delta message; simp [toString]⟩
  | outOfRange field =>
    cases field with
    | second | minute | month => exact ⟨['M'], by simp [plainHeads], begins_of_eq rfl⟩
    | hour => exact ⟨['H'], by simp [plainHeads], begins_of_eq rfl⟩
    | dayOfMonth | dayOfWeek => exact ⟨['D', 'a'], by simp [plainHeads], begins_of_eq rfl⟩
    | year =>
      exact ⟨['Y'], by simp [plainHeads], by delta message rangeMessage; simp [toString]⟩
  | noValues => exact ⟨['N', 'o'], by simp [plainHeads], by delta message; simp [toString]⟩
  | unexpected | notAName | unknownMonth | unknownWeekday | numberTooLarge => cases h

/-- **The quotation of a message** is what its fault has found. -/
theorem quotes_iff : fault.Quotes quoted ↔ fault.quotation? = some quoted := by
  refine ⟨fun h => ?_, quotes_of_quotation?⟩
  cases hown : fault.quotation? with
  | some own => rw [(quotes_of_quotation? hown).unique h]
  | none =>
    obtain ⟨head, hhead, hstart⟩ := exists_plainHead hown
    obtain ⟨ends, hends, heq⟩ := h
    have hfree : ∀ head ∈ plainHeads, ∀ ends ∈ quotingMessages,
        ¬ head <+: ends.1.toList ∧ ¬ ends.1.toList <+: head := by
      simp [plainHeads, quotingMessages]
    obtain ⟨hplain, hquoting⟩ := hfree head hhead ends hends
    rcases List.prefix_or_prefix_of_prefix hstart (message_begins heq) with hle | hle
    · exact absurd hle hplain
    · exact absurd hle hquoting

end Fault

end CronSchedule
