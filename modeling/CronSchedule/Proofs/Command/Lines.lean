import CronSchedule.Proofs.Command.Execute
import CronSchedule.Proofs.Instant.Printed
import CronSchedule.Proofs.Search.Next
import CronSchedule.Proofs.Text.Pieces

/-!
# The lines of a report of fire times

The fire times of a report are printed one to a line (`Report.lines_next`). All of them lie
in years of four digits, whatever the clock that they are printed for
(`fourDigitYear_of_nextAfter`), so every line is RFC 3339. Read back, the lines give the fire
times again exactly when nothing is rounded off the offsets (`read_lines_iff`); at Monrovia,
before 1972, something is (`not_forall_read_lines`).
-/

namespace CronSchedule

/-! ## Fire times are in years of four digits -/

namespace Schedule

variable {s : Schedule} {after : Instant} {offset : Offset} {limit reading r : Reading} {t : Int}
variable {yearLimit : Nat}

section

variable (hs : s.WellFormed yearLimit) (hlimit : yearLimit ≤ Field.lastYear)
include hs

/-- Allowed readings are not before 1970. -/
theorem nonneg_of_allows (h : s.Allows r) : 0 ≤ r.seconds := by
  obtain ⟨year, hmem, heq⟩ := h.2.2.2
  have hleast : 1970 ≤ year := (hs.bounds _ _ hmem).1
  have hstart := Reading.lt_ofDate_month_iff r 1970 Nat.one_pos (by decide)
  rw [Reading.lt_def, show (Reading.ofDate ⟨1970, 1, 1⟩).seconds = 0 by decide] at hstart
  refine Int.not_lt.1 fun hearly => ?_
  have := hstart.1 hearly
  have := r.valid_date.1
  omega

include hlimit

theorem exists_allows_of_nextShowing (h : s.nextShowing after reading = some t) :
    ∃ r, s.Allows r ∧ (r.seconds - t).natAbs < 86400 := by
  fun_induction nextShowing s after reading with
  | case1 => cases h
  | case2 reading candidate hc found hf =>
    obtain rfl := Option.some.inj h
    exact ⟨candidate, (nextReading_eq_some hs hlimit hc).2.1,
      Zone.natAbs_offset_lt (List.mem_of_find?_eq_some hf)⟩
  | case3 reading candidate hc hf ih => exact ih h

theorem exists_allows_of_nextAtOffset (h : s.nextAtOffset after offset limit reading = some t) :
    ∃ r, s.Allows r ∧ (r.seconds - t).natAbs < 86400 := by
  have hday := offset.lt_day
  fun_induction nextAtOffset s after offset limit reading with
  | case1 => cases h
  | case2 => cases h
  | case3 reading candidate hc time hpast htime =>
    obtain rfl := Option.some.inj h
    exact ⟨candidate, (nextReading_eq_some hs hlimit hc).2.1, by omega⟩
  | case4 reading candidate hc time hpast htime ih => exact ih h

/-- **At a fire time, the clock of the zone is within a day of an allowed reading.** -/
theorem exists_allows_of_nextAfter {time : Instant} (h : s.nextAfter after = some time) :
    ∃ r, s.Allows r ∧ (r.seconds - time.seconds).natAbs < 86400 := by
  obtain ⟨answer, heq, hfirst⟩ := nextAfter_isFirst_found s after
  rw [heq, Option.map_eq_some_iff] at h
  obtain ⟨t, rfl, rfl⟩ := h
  rcases hfirst.1 with hlater | hrepeated
  · exact exists_allows_of_nextShowing hs hlimit hlater
  · rw [nextRepeatedReading_eq] at hrepeated
    dsimp only at hrepeated
    split at hrepeated
    · cases hrepeated
    · exact exists_allows_of_nextAtOffset hs hlimit hrepeated

/-- **Whatever a clock shows at a fire time has a year of four digits.** -/
theorem fourDigitYear_of_nextAfter {time : Instant} (h : s.nextAfter after = some time)
    (offset : Offset) : Instant.FourDigitYear ⟨time.seconds + offset.seconds⟩ := by
  obtain ⟨r, hallows, hnear⟩ := exists_allows_of_nextAfter hs hlimit h
  have hday := offset.lt_day
  have hlow := nonneg_of_allows hs hallows
  have hhigh : r.seconds < horizon.seconds := lt_horizon_of_allows hs hlimit hallows
  -- Two days before 1970 it is 1969, and two days after the years searched are over, 3000.
  have hfirst : (⟨-172800⟩ : Reading) ≤ ⟨time.seconds + offset.seconds⟩ := by
    show -172800 ≤ time.seconds + offset.seconds
    omega
  have hlast : (⟨time.seconds + offset.seconds⟩ : Reading) ≤ ⟨horizon.seconds + 172800⟩ := by
    show time.seconds + offset.seconds ≤ horizon.seconds + 172800
    omega
  have hfirstYear : (⟨-172800⟩ : Reading).date.year = 1969 := by decide
  have hlastYear : (⟨horizon.seconds + 172800⟩ : Reading).date.year = 3000 := by decide
  have := Reading.year_le_year hfirst
  have := Reading.year_le_year hlast
  constructor <;> omega

end

theorem exists_nextAfter_of_mem_upcoming {count : Nat} {time : Instant}
    (h : time ∈ s.upcoming after count) : ∃ before, s.nextAfter before = some time := by
  fun_induction upcoming s after count with
  | case1 => cases h
  | case2 after count first hnext ih =>
    rcases List.mem_cons.1 h with rfl | hlater
    · exact ⟨after, hnext⟩
    · exact ih hlater
  | case3 => cases h

end Schedule

/-! ## The lines -/

namespace Report

open Text

variable {fireTimes : List Instant} {t : Instant}

/-- The lines of the report in writing. -/
def lines (report : Report) (zone : Zone) : List String :=
  (split '\n' (report.text zone).toList).map String.ofList

/-- An instant is printed on one line. -/
theorem newline_not_mem_rfc3339 (t : Instant) (zone : Zone) :
    '\n' ∉ (t.rfc3339 zone).toList := by
  have hpadded : ∀ width n, '\n' ∉ padded width n :=
    fun _ _ h => absurd (isDigit_of_mem_padded h) (by decide)
  simp only [Instant.rfc3339, Instant.readingText, Instant.yearText, Instant.fractionText,
    Instant.offsetText, String.toList_ofList]
  split_ifs <;> simp [hpadded]

/-- **The fire times are printed one to a line.** -/
theorem lines_next (expression name : String) (start : Instant) (hne : fireTimes ≠ [])
    (zone : Zone) :
    (next expression name start fireTimes).lines zone = fireTimes.map (·.rfc3339 zone) := by
  have htext : (next expression name start fireTimes).text zone =
      "\n".intercalate (fireTimes.map (·.rfc3339 zone)) := by
    cases fireTimes with
    | nil => exact absurd rfl hne
    | cons first later => rfl
  rw [lines, htext, String.toList_intercalate, List.map_map, show "\n".toList = ['\n'] from rfl,
    split_intercalate (by simpa using hne), List.map_map]
  · refine List.map_congr_left fun t _ => ?_
    simp
  · intro piece hpiece
    obtain ⟨t, -, rfl⟩ := List.mem_map.1 hpiece
    exact newline_not_mem_rfc3339 t zone

end Report

namespace Command

variable {context : Context} {command : Command} {text name : String} {start : Instant}
variable {fireTimes : List Instant}

/-- The fire times of a report are those of some expression, up to some number. -/
theorem exists_upcoming_of_execute
    (h : execute context command = .ok (.next text name start fireTimes)) :
    ∃ expression s count, Schedule.read context.yearLimit context.zone expression = .ok s ∧
      fireTimes = s.upcoming start count := by
  obtain ⟨s, hs, hfireTimes⟩ := upcoming_of_execute h
  exact ⟨command.expression, s, command.count?.getD context.defaultCount, hs, hfireTimes⟩

/-- **The lines of a report of fire times are read back as these fire times exactly when the
clock that they are printed for is whole minutes ahead of UTC or behind it at each of them**,
in whatever zone they are read. The document of the report has the same instants always. -/
theorem read_lines_iff {currentYear : Int}
    (hlimit : context.yearLimit = Field.yearLimit currentYear)
    (h : execute context command = .ok (.next text name start fireTimes))
    (hne : fireTimes ≠ []) (display zone : Zone) :
    (((Report.next text name start fireTimes).lines display).map (Instant.read zone) =
        fireTimes.map .ok ↔ ∀ t ∈ fireTimes, 60 ∣ (display.offsetAt t.seconds).seconds) ∧
      ∀ t ∈ fireTimes, ∃ line, Report.instantJson t = .string line ∧
        Instant.read zone line = .ok t := by
  obtain ⟨expression, s, count, hs, rfl⟩ := exists_upcoming_of_execute h
  rw [hlimit] at hs
  obtain ⟨hwell, hlast, -⟩ := Schedule.searchable_of_read hs
  have hfire : ∀ t ∈ s.upcoming start count,
      (∀ offset : Offset, Instant.FourDigitYear ⟨t.seconds + offset.seconds⟩) ∧
        ∀ r, Instant.Past r t.nanos := by
    intro t ht
    obtain ⟨before, hnext⟩ := Schedule.exists_nextAfter_of_mem_upcoming ht
    refine ⟨Schedule.fourDigitYear_of_nextAfter hwell hlast hnext, fun r => ?_⟩
    rw [(Schedule.nextAfter_bounds hnext).2.2]
    exact Instant.past_zero r
  constructor
  · rw [Report.lines_next text name start hne, List.map_map, List.map_inj_left]
    refine forall₂_congr fun t ht => ?_
    rw [Function.comp_apply]
    exact Instant.read_rfc3339_iff ((hfire t ht).1 (display.offsetAt t.seconds)) ((hfire t ht).2 _)
  · intro t ht
    have hyear := (hfire t ht).1 .zero
    rw [show t.seconds + Offset.zero.seconds = t.seconds from Int.add_zero _] at hyear
    exact ⟨_, rfl, Instant.read_rfc3339Utc hyear ((hfire t ht).2 _)⟩

/-- At Casey midnight came twice on 2010-03-05, eleven hours ahead of UTC and then eight, and
the two lines that are printed there are read back as two instants, also at Monrovia. -/
theorem read_lines_midnightAgain :
    ∃ text name start, execute ⟨Field.yearLimit 2025, .antarcticaCasey, 3, ⟨0, 0⟩⟩
        (.next "0 0 0 * * ?" (some "2010-03-04T12:00:00Z") none) =
          .ok (.next text name start
            [.ofSeconds 1267707600, .ofSeconds 1267718400, .ofSeconds 1267804800]) ∧
      [Instant.ofSeconds 1267707600, .ofSeconds 1267718400, .ofSeconds 1267804800] ≠ [] ∧
      ((Report.next text name start [.ofSeconds 1267707600, .ofSeconds 1267718400,
        .ofSeconds 1267804800]).lines .antarcticaCasey).map (Instant.read .africaMonrovia) =
          [.ok (.ofSeconds 1267707600), .ok (.ofSeconds 1267718400),
            .ok (.ofSeconds 1267804800)] := by
  have h : execute ⟨Field.yearLimit 2025, .antarcticaCasey, 3, ⟨0, 0⟩⟩
      (.next "0 0 0 * * ?" (some "2010-03-04T12:00:00Z") none) =
        .ok (.next "0 0 0 * * ?" "Antarctica/Casey" (.ofSeconds 1267704000)
          [.ofSeconds 1267707600, .ofSeconds 1267718400, .ofSeconds 1267804800]) := by
    decide +kernel
  have hne : [Instant.ofSeconds 1267707600, .ofSeconds 1267718400, .ofSeconds 1267804800] ≠ [] :=
    List.cons_ne_nil _ _
  exact ⟨_, _, _, h, hne, (read_lines_iff rfl h hne .antarcticaCasey .africaMonrovia).1.2
    (by decide)⟩

/-- **At Monrovia, before 1972, the lines are read back half a minute off.** The clock there
was 44 minutes and a half behind UTC, which is printed as 45 minutes. -/
theorem not_forall_read_lines :
    ¬ ∀ (currentYear : Int) (context : Context) (command : Command) (text name : String)
      (start : Instant) (fireTimes : List Instant) (display zone : Zone),
      context.yearLimit = Field.yearLimit currentYear →
      execute context command = .ok (.next text name start fireTimes) → fireTimes ≠ [] →
      ((Report.next text name start fireTimes).lines display).map (Instant.read zone) =
        fireTimes.map .ok := by
  intro hall
  have hsame := hall 2025 ⟨Field.yearLimit 2025, .africaMonrovia, 1, ⟨0, 0⟩⟩
    (.next "0 0 0 2 1 ? 1970" none none) "0 0 0 2 1 ? 1970" "Africa/Monrovia" ⟨0, 0⟩
    [.ofSeconds 89070] .africaMonrovia .utc rfl (by decide +kernel) (List.cons_ne_nil _ _)
  exact absurd hsame (by decide +kernel)

end Command

end CronSchedule
