import CronSchedule.Proofs.Text.Words
import CronSchedule.Text.Decimal
import Mathlib.Algebra.Group.Nat.Defs

/-!
# Padded numbers read back

A number below `10 ^ width` is written with exactly `width` digits (`length_padded`), which
write it (`ofDigitChars_padded`). So the readers of digits find it at the beginning of a
text, whatever follows: with exactly so many digits (`readDigitsExactly_padded`) and with at
most so many (`readDigits_padded`). A digit is no white space, and passing over white space
does not touch it (`dropBlanks_padded`).
-/

namespace CronSchedule

namespace Text

variable {width n : Nat} {text : List Char} {c : Char}

/-- **A number that fits is written with exactly so many digits.** -/
theorem length_padded (hwidth : 0 < width) (h : n < 10 ^ width) :
    (padded width n).length = width := by
  have hle : (Nat.toDigits 10 n).length ≤ width :=
    (Nat.length_toDigits_le_iff (by decide) hwidth).2 h
  rw [padded, List.length_append, List.length_replicate, Nat.sub_add_cancel hle]

theorem isDigit_of_mem_padded (h : c ∈ padded width n) : c.isDigit = true := by
  rcases List.mem_append.1 h with h | h
  · rw [List.eq_of_mem_replicate h]
    rfl
  · exact Nat.isDigit_of_mem_toDigits (by decide) (by decide) h

/-- **The digits write the number**: the zeros before it do not count. -/
theorem ofDigitChars_padded : Nat.ofDigitChars 10 (padded width n) 0 = n := by
  rw [padded, Nat.ofDigitChars_append, Nat.ofDigitChars_replicate_zero, Nat.mul_zero,
    Nat.ofDigitChars_ten_toDigits]

theorem padded_ne_nil : padded width n ≠ [] :=
  List.append_ne_nil_of_right_ne_nil _ Nat.toDigits_ne_nil

theorem isBlank_eq_false_of_isDigit (h : c.isDigit = true) : isBlank c = false := by
  have hrange : 48 ≤ c.toNat ∧ c.toNat ≤ 57 := Char.isDigit_iff_toNat.1 h
  simp only [isBlank, Bool.or_eq_false_iff, Bool.and_eq_false_iff, decide_eq_false_iff_not,
    beq_eq_false_iff_ne]
  omega

section

variable (hwidth : 0 < width) (h : n < 10 ^ width)
include hwidth h

theorem readDigitsExactly_padded (rest : List Char) :
    readDigitsExactly width (padded width n ++ rest) = some (n, rest) := by
  have hlength := length_padded hwidth h
  have htake : (padded width n ++ rest).take width = padded width n := List.take_left' hlength
  have hall : (padded width n).all Char.isDigit = true :=
    List.all_eq_true.2 fun c hc => isDigit_of_mem_padded hc
  simp only [readDigitsExactly, htake]
  rw [if_pos ⟨hlength, hall⟩, ofDigitChars_padded, List.drop_left' hlength]

theorem readDigits_padded (rest : List Char) :
    readDigits width (padded width n ++ rest) = some (n, rest) := by
  have hlength := length_padded hwidth h
  have htake : ((padded width n ++ rest).take width).takeWhile Char.isDigit = padded width n := by
    rw [List.take_left' hlength, List.takeWhile_eq_self_iff]
    exact fun c hc => isDigit_of_mem_padded hc
  have hne : (padded width n).isEmpty = false := by simpa using padded_ne_nil
  simp only [readDigits, htake, hne]
  rw [ofDigitChars_padded, hlength, List.drop_left' hlength]
  rfl

end

theorem isDigit_of_mem_head? {rest : List Char} (h : c ∈ (padded width n ++ rest).head?) :
    c.isDigit = true := by
  rw [List.head?_append_of_ne_nil _ padded_ne_nil] at h
  exact isDigit_of_mem_padded (List.mem_of_mem_head? h)

theorem dropBlanks_padded (rest : List Char) :
    dropBlanks (padded width n ++ rest) = padded width n ++ rest :=
  dropBlanks_of_head fun _ hc => isBlank_eq_false_of_isDigit (isDigit_of_mem_head? hc)

theorem isTrimmed_padded : IsTrimmed (padded width n) :=
  isTrimmed_of_forall padded_ne_nil fun _ hc =>
    isBlank_eq_false_of_isDigit (isDigit_of_mem_padded hc)

/-! ## Digits past a point -/

/-- Digits are less than the number with one more digit. -/
theorem ofDigitChars_lt {digits : List Char} (h : ∀ c ∈ digits, c.isDigit = true) :
    Nat.ofDigitChars 10 digits 0 < 10 ^ digits.length := by
  induction digits with
  | nil => decide
  | cons c later ih =>
    obtain ⟨hc, hlater⟩ := List.forall_mem_cons.1 h
    have hlt := ih hlater
    have hdigit : c.toNat - '0'.toNat ≤ 9 := Nat.sub_le_sub_right (Char.isDigit_iff_toNat.1 hc).2 _
    rw [Nat.ofDigitChars_cons, Nat.ofDigitChars_eq_ofDigitChars_zero, Nat.mul_zero, Nat.zero_add,
      List.length_cons, Nat.pow_succ]
    calc 10 ^ later.length * (c.toNat - '0'.toNat) + Nat.ofDigitChars 10 later 0
        < 10 ^ later.length * (c.toNat - '0'.toNat) + 10 ^ later.length := by omega
      _ = 10 ^ later.length * (c.toNat - '0'.toNat + 1) := (Nat.mul_succ _ _).symm
      _ ≤ 10 ^ later.length * 10 := Nat.mul_le_mul_left _ (Nat.succ_le_succ hdigit)

/-- Digits after the ninth are below the nanosecond. -/
theorem ofDigitChars_take {digits : List Char} (h : ∀ c ∈ digits, c.isDigit = true) :
    Nat.ofDigitChars 10 (digits.take 9) 0 * 10 ^ (9 - (digits.take 9).length) =
      Nat.ofDigitChars 10 digits 0 * 10 ^ 9 / 10 ^ digits.length := by
  rcases Nat.le_total digits.length 9 with hle | hge
  · rw [List.take_of_length_le hle]
    refine (Nat.div_eq_of_eq_mul_left (Nat.pow_pos (by decide)) ?_).symm
    rw [Nat.mul_assoc, ← Nat.pow_add, Nat.sub_add_cancel hle]
  · obtain ⟨more, hmore⟩ := Nat.exists_eq_add_of_le hge
    have hdrop : (digits.drop 9).length = more := by rw [List.length_drop, hmore]; omega
    have hlt : Nat.ofDigitChars 10 (digits.drop 9) 0 < 10 ^ (digits.drop 9).length :=
      ofDigitChars_lt fun c hc => h c (List.mem_of_mem_drop hc)
    have hsplit : Nat.ofDigitChars 10 digits 0 =
        10 ^ more * Nat.ofDigitChars 10 (digits.take 9) 0 +
          Nat.ofDigitChars 10 (digits.drop 9) 0 := by
      conv_lhs => rw [← List.take_append_drop 9 digits, Nat.ofDigitChars_append,
        Nat.ofDigitChars_eq_ofDigitChars_zero, hdrop]
    rw [hdrop] at hlt
    rw [List.length_take_of_le hge, hmore, Nat.pow_add, Nat.mul_comm (10 ^ 9) (10 ^ more),
      Nat.mul_div_mul_right _ _ (by decide), hsplit, Nat.mul_add_div (Nat.pow_pos (by decide)),
      Nat.div_eq_of_lt hlt, Nat.sub_self, Nat.pow_zero, Nat.mul_one, Nat.add_zero]

end Text

end CronSchedule
