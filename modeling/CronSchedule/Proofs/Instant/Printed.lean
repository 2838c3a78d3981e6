import CronSchedule.Instant.Printer
import CronSchedule.Proofs.Instant.Written

/-!
# Printed instants read back

What is printed for an instant is RFC 3339, but offsets are printed to the nearest minute
(`Offset.toMinute`). So it is read back as the instant itself exactly when the wall clock
that it is printed for is whole minutes ahead of UTC or behind it (`read_rfc3339_iff`), and
the clock of UTC always is (`read_rfc3339Utc`).
-/

namespace CronSchedule

namespace Offset

variable {offset : Offset}

/-- The offset to the nearest minute, a half away from UTC. -/
def toMinute (offset : Offset) : Int :=
  let seconds : Int := (offset.seconds.natAbs + 30) / 60 * 60
  if offset.seconds < 0 then -seconds else seconds

/-- Nothing is rounded off whole minutes, and from all others something is. -/
theorem toMinute_eq_iff : offset.toMinute = offset.seconds ↔ 60 ∣ offset.seconds := by
  simp only [toMinute]
  split <;> omega

end Offset

namespace Instant

open Text

variable {r : Reading} {nanos : Nat} {t : Instant} {offset : Offset} {zone display : Zone}
variable {text : List Char}

/-! ## What is printed -/

/-- Digits past a point are a part of a second. -/
theorem isFraction_padded {width n : Nat} (hwidth : 0 < width) (h : n < 10 ^ width)
    (heq : n * nanosPerSecond / 10 ^ width = nanos) :
    IsFraction ('.' :: padded width n) nanos := by
  have hfraction := IsFraction.digits (padded width n) padded_ne_nil
    fun c hc => isDigit_of_mem_padded hc
  rwa [ofDigitChars_padded, length_padded hwidth h, heq] at hfraction

theorem isFraction_fractionText (h : nanos < nanosPerSecond) :
    IsFraction (fractionText nanos) nanos := by
  rw [nanosPerSecond] at h
  rw [fractionText]
  split
  · rename_i hzero
    rw [hzero]
    exact .whole
  · split
    · exact isFraction_padded (by decide) (by omega) (by rw [nanosPerSecond]; omega)
    · split
      · exact isFraction_padded (by decide) (by omega) (by rw [nanosPerSecond]; omega)
      · exact isFraction_padded (by decide) h (by rw [nanosPerSecond]; omega)

theorem readingText_eq (hyear : FourDigitYear r) (nanos : Nat) :
    readingText r nanos = dateText r ++ 'T' :: clockText r nanos ++
      fractionText (nanos % nanosPerSecond) := by
  simp only [readingText, yearText, if_pos (And.intro hyear.1 hyear.2), dateText, clockText,
    List.append_assoc, List.cons_append]

/-- **The offset is read as it was rounded**, if that is less than a day. -/
theorem readOffset_offsetText (offset : Offset) :
    readOffset (offsetText offset) =
      if offset.toMinute.natAbs < 86400 then some offset.toMinute else none := by
  have hday := offset.lt_day
  have hread := readOffset_append
    (show (offset.seconds.natAbs + 30) / 60 / 60 < 10 ^ 2 by omega)
    (show (offset.seconds.natAbs + 30) / 60 % 60 ≤ 59 by omega)
  have hless : (offset.seconds.natAbs + 30) / 60 / 60 ≤ 23 ↔ offset.toMinute.natAbs < 86400 := by
    simp only [Offset.toMinute]
    split <;> omega
  simp only [hless] at hread
  rw [offsetText]
  split
  · rename_i hbehind
    have heq : offset.toMinute = -(((offset.seconds.natAbs + 30) / 60 / 60 : Nat) * 3600 +
        ((offset.seconds.natAbs + 30) / 60 % 60 : Nat) * 60) := by
      rw [Offset.toMinute, if_pos hbehind]
      omega
    rw [hread.2, heq]
  · rename_i hahead
    have heq : offset.toMinute = ((offset.seconds.natAbs + 30) / 60 / 60 : Nat) * 3600 +
        ((offset.seconds.natAbs + 30) / 60 % 60 : Nat) * 60 := by
      rw [Offset.toMinute, if_neg hahead]
      omega
    rw [hread.1, heq]

/-- It does not go on with the fraction before it. -/
theorem head_offsetText (offset : Offset) :
    ∀ c ∈ (offsetText offset).head?, c ≠ '.' ∧ c.isDigit = false := by
  unfold offsetText
  split <;> simp

theorem isTrimmed_offsetText (offset : Offset) : IsTrimmed (offsetText offset) := by
  unfold offsetText
  split <;> exact isTrimmed_hoursAndMinutes (by decide) _ _

/-! ## What is read back -/

/-- **An instant is read back from what is printed for it exactly when the offset of the wall
clock is whole minutes.** -/
theorem read_rfc3339_iff (hyear : FourDigitYear (display.readingAt t.seconds))
    (hnanos : Past (display.readingAt t.seconds) t.nanos) :
    read zone (t.rfc3339 display) = .ok t ↔ 60 ∣ (display.offsetAt t.seconds).seconds := by
  have hday := (display.offsetAt t.seconds).lt_day
  have hreading : (display.readingAt t.seconds).seconds =
      t.seconds + (display.offsetAt t.seconds).seconds := rfl
  rw [rfc3339, readingText_eq hyear]
  generalize display.offsetAt t.seconds = offset at *
  generalize display.readingAt t.seconds = r at *
  have hrfc := ofRfc3339?_append hyear hnanos List.mem_cons_self
    (isFraction_fractionText (Nat.mod_lt t.nanos (by decide))) _ (head_offsetText offset)
  have htrimmed : IsTrimmed (dateText r ++ 'T' :: clockText r t.nanos ++
      fractionText (t.nanos % nanosPerSecond) ++ offsetText offset) :=
    ((isTrimmed_dateText r).append_cons (isTrimmed_clockText r t.nanos) _).append
      (isTrimmed_offsetText offset) _
  simp only [read, String.toList_ofList, htrimmed.trim_eq, hrfc, readOffset_offsetText]
  rw [← Offset.toMinute_eq_iff]
  by_cases hless : offset.toMinute.natAbs < 86400
  · rw [if_pos hless]
    show Except.ok (⟨r.seconds - offset.toMinute, t.nanos⟩ : Instant) = .ok t ↔ _
    rw [Except.ok.injEq, Instant.ext_iff]
    simp only [and_true]
    omega
  · -- A whole day is no offset, and then the text is not a local reading either.
    have hlocal := read?_append_eq_none hyear hnanos (List.append_ne_nil_of_right_ne_nil
      (fractionText (t.nanos % nanosPerSecond)) (isTrimmed_offsetText offset).ne_nil)
    rw [← List.append_assoc] at hlocal
    rw [if_neg hless, Option.map_none, hlocal]
    refine iff_of_false (fun hread => ?_) fun hsame => hless ?_
    · cases hread
    · rwa [hsame]

/-- **For the clock of UTC it always is.** -/
theorem read_rfc3339Utc (hyear : FourDigitYear ⟨t.seconds⟩) (hnanos : Past ⟨t.seconds⟩ t.nanos) :
    read zone t.rfc3339Utc = .ok t := by
  have hwritten : IsRfc3339 (readingText ⟨t.seconds⟩ t.nanos ++ ['Z']) t := by
    have h := IsRfc3339.intro ⟨t.seconds⟩ t.nanos 'T' _ ['Z'] 0 hyear hnanos (by simp)
      (isFraction_fractionText (Nat.mod_lt t.nanos (by decide))) (.utc 'Z' (.inl rfl))
    rwa [← readingText_eq hyear, Int.sub_zero] at h
  simp only [rfc3339Utc, read, String.toList_ofList, hwritten.isTrimmed.trim_eq,
    hwritten.ofRfc3339?_eq_some]

end Instant

end CronSchedule
