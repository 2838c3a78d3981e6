import CronSchedule.Proofs.Expression.Meaning
import CronSchedule.Proofs.Schedule.Read

/-!
# The meaning of an expression

A schedule that has been read is the one that the texts of its fields spell
(`isSpelledBy_of_read`): each set holds what the items of its field stand for, and
the day is chosen as the day field that is not `?` says.
-/

namespace CronSchedule

namespace Schedule

open Expression

/-- **The schedule is the one that the texts of the seven fields spell.** -/
structure IsSpelledBy (yearLimit : Nat) (texts : Fields (List Char)) (s : Schedule) : Prop where
  sets : ∀ field, IsSetOf yearLimit field (texts.get field) (s.field field)
  day : SpellsDayRule yearLimit texts.dayOfMonth texts.dayOfWeek s.day

/-- **What an accepted text means.** The values of every field are those that the items
between its commas stand for, and the day field that is not `?` chooses the day. -/
theorem isSpelledBy_of_read {yearLimit : UInt32} {zone : Zone} {text : String} {s : Schedule}
    (h : read yearLimit.toNat zone text = .ok s) :
    ∃ texts : Fields (List Char),
      texts.toList = Field.all.zip (fieldTexts (normalize text.toList) ++ [['*']]) ∧
      s.IsSpelledBy yearLimit.toNat texts := by
  have hlimit : yearLimit.toNat ≤ Cursor.greatestNumber := Nat.le_of_lt_succ yearLimit.toNat_lt
  have hfirst := firstYear_le_of_read h
  obtain ⟨fs, items, hfs, hitems, hday, rfl⟩ := (ofNormalized_eq_ok hfirst hlimit).1 h
  refine ⟨_, fieldTokens_texts hfs, fun field => ?_, ?_⟩
  · rw [Fields.get_map, Schedule.field, Fields.get_map]
    exact (hitems field).isSetOf_valueSet hfirst hlimit
  · have hmonth := (hitems .dayOfMonth).unspecified_iff hfirst hlimit rfl
    have hweek := (hitems .dayOfWeek).unspecified_iff hfirst hlimit rfl
    show SpellsDayRule yearLimit.toNat (fs.get .dayOfMonth).chars (fs.get .dayOfWeek).chars
      (dayRule (items.get .dayOfMonth) (items.get .dayOfWeek))
    unfold dayRule
    split
    · rename_i hgiven
      exact .monthDays (mt hmonth.2 hgiven) (hweek.1 (hday.resolve_left hgiven))
        ((hitems .dayOfMonth).spellsDay hfirst hlimit)
    · rename_i hleft
      have hleft := hmonth.1 (not_not.1 hleft)
      split
      · rename_i hgiven
        exact .weekDays hleft (mt hweek.2 hgiven) ((hitems .dayOfWeek).spellsDay hfirst hlimit)
      · rename_i hboth
        exact .neither hleft (hweek.1 (not_not.1 hboth))

/-- Hours by threes across midnight, and the second Friday of a month; the year is left
out. -/
theorem isSpelledBy_secondFriday :
    ∃ s, read (2125 : UInt32).toNat .utc "0 0 22-2/3 ? * fri#2" = .ok s ∧
      (s.field .hour).values = [1, 22] ∧ s.day = .nthWeekday 6 2 ∧
      ∃ texts : Fields (List Char), texts.toList = Field.all.zip
        (fieldTexts (normalize "0 0 22-2/3 ? * fri#2".toList) ++ [['*']]) ∧
        s.IsSpelledBy (2125 : UInt32).toNat texts := by
  obtain ⟨s, hs, hvalues⟩ := exists_of_bind_eq_some
    (by decide +kernel : (read (2125 : UInt32).toNat .utc "0 0 22-2/3 ? * fri#2").toOption.bind
      (fun s => some ((s.field .hour).values, s.day)) = some ([1, 22], .nthWeekday 6 2))
  obtain ⟨hhours, hday⟩ := Prod.mk.inj (Option.some.inj hvalues)
  exact ⟨s, hs, hhours, hday, isSpelledBy_of_read hs⟩

end Schedule

end CronSchedule
