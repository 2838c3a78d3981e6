import CronSchedule.Proofs.Expression.Place
import CronSchedule.Proofs.Schedule.Read

/-!
# Where an expression is at fault

The position of a fault is a place in the normalized text (`place_of_read`). Unless there are
too few or too many fields, everything before it has been read, and what has been read is
ASCII; so the position counts bytes and characters alike, and what the message quotes
stands there.
-/

namespace CronSchedule

namespace Schedule

open Expression Text

variable {yearLimit : Nat} {zone : Zone} {text : List Char} {fs : Fields Token} {field : Field}
variable {earlier later : List Field} {error : ExpressionError}

theorem checkValues_eq_error {day : DayRule} {sets : Fields ValueSet}
    (h : checkValues fs day sets = .error error) :
    ∃ field, error = ⟨.noValues field, (fs.get field).offset⟩ := by
  unfold checkValues at h
  split at h
  · exact ⟨_, (Except.error.inj h).symm⟩
  · cases h

/-- **How reading a normalized text fails**: there are too few or too many fields, or a field
fails, or all fields are read and the check on their values fails, or the one on the day
fields. -/
theorem ofNormalized_eq_error (h : ofNormalized yearLimit zone text = .error error) :
    fieldTokens text = .error error ∨ ∃ fs, fieldTokens text = .ok fs ∧
      (fs.mapExcept (readItems yearLimit) = .error error ∨
        ∃ items, fs.mapExcept (readItems yearLimit) = .ok items ∧
          ((∃ field, error = ⟨.noValues field, (fs.get field).offset⟩) ∨
            error = ⟨.bothDayFields, fs.dayOfWeek.offset⟩)) := by
  simp only [ofNormalized, bind_eq_error] at h
  rcases h with htokens | ⟨fs, hfs, hfields | ⟨items, hitems, hvalues | ⟨_, -, hday⟩⟩⟩
  · exact .inl htokens
  · exact .inr ⟨fs, hfs, .inl hfields⟩
  · exact .inr ⟨fs, hfs, .inr ⟨items, hitems, .inl (checkValues_eq_error hvalues)⟩⟩
  · refine .inr ⟨fs, hfs, .inr ⟨items, hitems, .inr ?_⟩⟩
    split at hday
    · exact (Except.error.inj hday).symm
    · cases hday

/-- What stands before a field is in ASCII when the fields before it have been read. -/
theorem isAscii_before (hfs : fieldTokens text = .ok fs)
    (hall : Field.all = earlier ++ field :: later)
    (hearlier : ∀ other ∈ earlier, ∃ items, readItems yearLimit other (fs.get other) = .ok items) :
    ∃ before after, text = before ++ after ∧ IsAscii before ∧
      before.length = (fs.get field).offset ∧
      ((fs.get field).chars <+: after ∨ field = .year ∧ (fs.get field).chars = ['*']) := by
  obtain ⟨before, after, heq, hoffset, hbefore, hchars⟩ := exists_of_fieldTokens hfs hall
  have hascii : IsAscii before := by
    intro c hc
    obtain rfl | ⟨other, hother, hmem⟩ := hbefore c hc
    · decide
    · obtain ⟨items, hitems⟩ := hearlier other hother
      exact isAscii_of_readItems hitems c hmem
  exact ⟨before, after, heq, hascii, by rw [← hascii.byteLength, hoffset], hchars⟩

/-- A year that is left out is read. -/
theorem readItems_all (yearLimit offset : Nat) (field : Field) :
    readItems yearLimit field ⟨offset, ['*']⟩ = .ok [.all] := by
  cases field <;> rfl

/-- **The place of a fault in a text**, which is cut in two there. Unless the number of fields
is wrong, it stands after as many characters as bytes, and what the message quotes follows. -/
structure IsPlace (error : ExpressionError) (before after : List Char) : Prop where
  position : byteLength before = error.position
  ascii : error.fault ≠ .tooFewFields → error.fault ≠ .tooManyFields →
    IsAscii before ∧ before.length = error.position
  quoted : ∀ quoted, error.fault.Quotes quoted → quoted.toList <+: after

theorem isPlace_of_isAscii {before after : List Char} (hascii : IsAscii before)
    (hlength : before.length = error.position)
    (hquoted : ∀ quoted ∈ error.fault.quotation?, quoted.toList <+: after) :
    IsPlace error before after :=
  ⟨by rw [hascii.byteLength, hlength], fun _ _ => ⟨hascii, hlength⟩,
    fun quoted h => hquoted quoted (Fault.quotes_iff.1 h)⟩

/-- A fault about the number of fields quotes nothing, so it may stand after any text. -/
theorem isPlace_of_count {before after : List Char} (hposition : byteLength before = error.position)
    (hfault : error.fault = .tooFewFields ∨ error.fault = .tooManyFields) :
    IsPlace error before after := by
  refine ⟨hposition, fun hfew hmany => (hfault.elim hfew hmany).elim, fun quoted h => ?_⟩
  rw [Fault.quotes_iff] at h
  rcases hfault with hfault | hfault <;> rw [hfault] at h <;> cases h

/-- **Every fault in a normalized text has a place in it.** -/
theorem exists_isPlace (h : ofNormalized yearLimit zone text = .error error) :
    ∃ before after, text = before ++ after ∧ IsPlace error before after := by
  rcases ofNormalized_eq_error h with hcount | ⟨fs, hfs, hfield | ⟨items, hitems, hlast⟩⟩
  · rcases fieldTokens_eq_error hcount with rfl | ⟨token, htoken, rfl⟩
    · exact ⟨text, [], (List.append_nil _).symm, isPlace_of_count rfl (.inl rfl)⟩
    · obtain ⟨earlier, later, htokens⟩ := List.append_of_mem htoken
      obtain ⟨before, after, heq, hoffset, -⟩ := exists_of_tokens htokens
      exact ⟨before, _, heq, isPlace_of_count hoffset (.inr rfl)⟩
  · -- A field fails, and those before it have been read.
    obtain ⟨earlier, field, later, hall, hearlier, hread⟩ := Fields.mapExcept_eq_error.1 hfield
    obtain ⟨before, after, heq, hascii, hlength, hchars⟩ := isAscii_before hfs hall hearlier
    obtain ⟨passed, rest, hpassed, hpassedAscii, hposition, hquoted⟩ := place_of_readItems hread
    rcases hchars with ⟨behind, rfl⟩ | ⟨-, hyear⟩
    · refine ⟨before ++ passed, rest ++ behind, ?_, isPlace_of_isAscii
        (hascii.append hpassedAscii) ?_ fun quoted hmem => ?_⟩
      · simp only [heq, hpassed, List.append_assoc]
      · rw [List.length_append, hlength, hposition]
      · exact (hquoted quoted hmem).trans (List.prefix_append _ _)
    · have hall : readItems yearLimit field (fs.get field) = .ok [.all] := by
        rw [← readItems_all yearLimit (fs.get field).offset field, ← hyear]
      rw [hall] at hread
      cases hread
  · -- All fields have been read, and the fault stands at the beginning of one.
    have hplace : ∀ field : Field, error.position = (fs.get field).offset →
        error.fault.quotation? = none →
        ∃ before after, text = before ++ after ∧ IsPlace error before after := by
      intro field hposition hplain
      obtain ⟨earlier, later, hall⟩ : ∃ earlier later, Field.all = earlier ++ field :: later :=
        List.append_of_mem field.mem_all
      obtain ⟨before, after, heq, hascii, hlength, -⟩ := isAscii_before hfs hall
        fun other _ => ⟨_, Fields.mapExcept_eq_ok.1 hitems other⟩
      exact ⟨before, after, heq, isPlace_of_isAscii hascii (hlength.trans hposition.symm)
        (by simp [hplain])⟩
    rcases hlast with ⟨field, rfl⟩ | rfl
    · exact hplace field rfl rfl
    · exact hplace .dayOfWeek rfl rfl

/-- **Where reading a text has failed.** The position lies in the normalized text, between two
of its characters; unless the number of fields is wrong, all that stands before it is ASCII,
and what the message quotes stands right there. -/
theorem isPlace_of_read {text : String} (h : read yearLimit zone text = .error error) :
    error.position ≤ byteLength (normalize text.toList) ∧
      ∃ before after, normalize text.toList = before ++ after ∧ IsPlace error before after := by
  obtain ⟨before, after, heq, hplace⟩ := exists_isPlace h
  refine ⟨?_, before, after, heq, hplace⟩
  rw [heq, byteLength_append, hplace.position]
  exact Nat.le_add_right _ _

/-- Characters that change their number of bytes in upper case, and one of two bytes in what
the message quotes. -/
theorem isPlace_of_read_ligature :
    ∃ error, read 2125 .utc "0 0 0 ? ſep-ﬁé,é *" = .error error ∧ error.position = 12 ∧
      error.fault.Quotes "FIÉ" ∧
      error.position ≤ byteLength (normalize "0 0 0 ? ſep-ﬁé,é *".toList) ∧
      ∃ before after, normalize "0 0 0 ? ſep-ﬁé,é *".toList = before ++ after ∧
        IsPlace error before after := by
  have hread : read 2125 .utc "0 0 0 ? ſep-ﬁé,é *" = .error ⟨.notAName "FIÉ", 12⟩ := by
    decide +kernel
  exact ⟨_, hread, rfl, Fault.quotes_iff.2 rfl, isPlace_of_read hread⟩

end Schedule

end CronSchedule
