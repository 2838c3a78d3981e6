import CronSchedule.Proofs.Search.Reading

/-!
# The search for the next reading makes progress

`searchFrom` has a guard that ends the search at a move that would not lead forward. Here
the loop stands without it: `Visits` are the cursors that the passes lead to, wherever that
is, and a `SearchRun` is a run of any number of passes. The guard is needed for a cursor
that is just anywhere, from which the move to the nearest weekday can lead back. It never
decides for the cursors of a search, which are `Reached` (`Visits.reached`): each pass sends
them forward (`lt_of_pass`), so every run ends, with the answer of the guarded search
(`searchRun_iff`).
-/

namespace CronSchedule

namespace Schedule

variable {s : Schedule} {start cursor later : Reading} {answer : Option Reading} {yearLimit : Nat}

/-- One pass over the fields: the second is settled, and then the lowest field that does
not allow the cursor says where to begin again. -/
def pass (s : Schedule) (start cursor : Reading) : Move :=
  s.move start (s.settleSecond cursor)

/-- **The cursors of a search** that begins at `start`, one for each pass. -/
inductive Visits (s : Schedule) (start : Reading) : Reading → Prop
  /-- The first pass begins at the start. -/
  | start : Visits s start start
  /-- A pass that moves the cursor is followed by one that begins where it was moved to. -/
  | restart {cursor later : Reading} : Visits s start cursor → cursor < horizon →
      s.pass start cursor = .goTo later → Visits s start later

/-- **A whole run of the search** from a cursor, and its answer. -/
inductive SearchRun (s : Schedule) (start : Reading) : Reading → Option Reading → Prop
  /-- The years that are searched are over. -/
  | ended {cursor : Reading} : horizon ≤ cursor → SearchRun s start cursor none
  /-- Every field allows the cursor. -/
  | found {cursor : Reading} : cursor < horizon → s.pass start cursor = .stay →
      s.settleSecond cursor < horizon → SearchRun s start cursor (some (s.settleSecond cursor))
  /-- Every field allows the cursor, but settling the second took it past the last year. -/
  | settledPast {cursor : Reading} : cursor < horizon → s.pass start cursor = .stay →
      horizon ≤ s.settleSecond cursor → SearchRun s start cursor none
  /-- The year allows nothing more. -/
  | exhausted {cursor : Reading} : cursor < horizon → s.pass start cursor = .never →
      SearchRun s start cursor none
  /-- A field moves the cursor, and the search begins again from there. -/
  | restart {cursor later : Reading} {answer : Option Reading} : cursor < horizon →
      s.pass start cursor = .goTo later → SearchRun s start later answer →
      SearchRun s start cursor answer

section
variable (hs : s.WellFormed yearLimit)
include hs

/-- **A pass sends a cursor of the search forward.** -/
theorem lt_of_pass (h : s.Reached start cursor) (hpass : s.pass start cursor = .goTo later) :
    cursor < later := by
  have hlead := move_leads hs (h.settle hs) (settleSecond_leads hs cursor).1
  rw [show s.move start (s.settleSecond cursor) = .goTo later from hpass] at hlead
  exact Int.lt_of_le_of_lt (le_settleSecond s cursor) hlead.1

/-- **And keeps the invariant of the search.** -/
theorem Reached.pass (h : s.Reached start cursor) (hpass : s.pass start cursor = .goTo later) :
    s.Reached start later :=
  (h.settle hs).move hs (settleSecond_leads hs cursor).1 hpass

/-- So the invariant holds wherever the search comes to. -/
theorem Visits.reached (h : s.Visits start cursor) : s.Reached start cursor := by
  induction h with
  | start => exact .refl s start
  | restart _ _ hpass ih => exact ih.pass hs hpass

/-- **A run without the guard has the answer of the search with it.** -/
theorem SearchRun.eq_searchFrom (hrun : s.SearchRun start cursor answer)
    (h : s.Reached start cursor) : answer = s.searchFrom start cursor := by
  induction hrun with
  | ended hended =>
    rw [searchFrom, if_neg (Reading.not_lt.2 hended)]
  | found hlt hpass hsettled =>
    rw [searchFrom, if_pos hlt]
    simp only [show s.move start _ = .stay from hpass, if_pos hsettled]
  | settledPast hlt hpass hsettled =>
    rw [searchFrom, if_pos hlt]
    simp only [show s.move start _ = .stay from hpass, if_neg (Reading.not_lt.2 hsettled)]
  | exhausted hlt hpass =>
    rw [searchFrom, if_pos hlt]
    simp only [show s.move start _ = .never from hpass]
  | restart hlt hpass _ ih =>
    rw [searchFrom, if_pos hlt]
    simp only [show s.move start _ = .goTo _ from hpass, if_pos (lt_of_pass hs h hpass)]
    exact ih (h.pass hs hpass)

/-- **And the search with the guard is such a run.** -/
theorem searchRun_searchFrom (h : s.Reached start cursor) :
    s.SearchRun start cursor (s.searchFrom start cursor) := by
  fun_induction searchFrom s start cursor with
  | case1 cursor hlt settled hmove hsettled => exact .found hlt hmove hsettled
  | case2 cursor hlt settled hmove hsettled => exact .settledPast hlt hmove (Int.not_lt.1 hsettled)
  | case3 cursor hlt settled later hmove hforward ih =>
    exact .restart hlt hmove (ih (h.pass hs hmove))
  | case4 cursor hlt settled later hmove hback => exact absurd (lt_of_pass hs h hmove) hback
  | case5 cursor hlt settled hmove => exact .exhausted hlt hmove
  | case6 cursor hover => exact .ended (Int.not_lt.1 hover)

/-- A run from the start of the search ends, in one way only. -/
theorem searchRun_iff (after : Reading) :
    s.SearchRun after.next after.next answer ↔ answer = s.nextReading after := by
  constructor
  · exact fun hrun => hrun.eq_searchFrom hs (.refl s after.next)
  · rintro rfl
    exact searchRun_searchFrom hs (.refl s after.next)

end

/-- **Each pass leads on, no cursor comes before the start, and the search ends**: with the
next reading, or without one where the schedule never fires. -/
theorem searchRun_of_read {currentYear : Int} {zone : Zone} {text : String}
    (h : read (Field.yearLimit currentYear) zone text = .ok s) (after : Reading) :
    (∀ cursor, s.Visits after.next cursor → after < cursor ∧
      ∀ later, s.pass after.next cursor = .goTo later → cursor < later) ∧
    (∀ answer, s.SearchRun after.next after.next answer ↔ answer = s.nextReading after) ∧
    ((∀ r, after < r → ¬ s.Allows r) → s.SearchRun after.next after.next none) := by
  obtain ⟨hs, hlimit, -⟩ := searchable_of_read h
  refine ⟨fun cursor hvisits => ?_, fun answer => searchRun_iff hs after, fun hnever => ?_⟩
  · have hreached := hvisits.reached hs
    exact ⟨Int.lt_of_lt_of_le (Int.lt_succ _) hreached.start_le,
      fun later hpass => lt_of_pass hs hreached hpass⟩
  · rw [searchRun_iff hs]
    exact ((nextReading_isFirst hs hlimit after).eq_none_iff.2 fun r hr =>
      hnever r hr.1 hr.2).symm

/-- February never has the day that is asked for, and the nearest workday to it in March is
looked at each year. The first two passes send the cursor to the next hour and on to the next
day, and the run ends where the years do. -/
theorem searchRun_februaryThirtieth :
    ∃ s, read (Field.yearLimit 2025) .utc "0 0 0 30W 2 ?" = .ok s ∧
      (∀ cursor, s.Visits (Reading.next (.ofParts 375066 0 0 0)) cursor →
        .ofParts 375066 0 0 0 < cursor ∧ ∀ later,
          s.pass (Reading.next (.ofParts 375066 0 0 0)) cursor = .goTo later → cursor < later) ∧
      (s.Visits (Reading.next (.ofParts 375066 0 0 0)) (.ofParts 375066 1 0 0) ∧
        s.pass (Reading.next (.ofParts 375066 0 0 0)) (.ofParts 375066 1 0 0) =
          .goTo (.ofParts 375067 0 0 0) ∧
        Reading.ofParts 375066 0 0 0 < .ofParts 375066 1 0 0 ∧
        Reading.ofParts 375066 1 0 0 < .ofParts 375067 0 0 0) ∧
      s.SearchRun (Reading.next (.ofParts 375066 0 0 0)) (Reading.next (.ofParts 375066 0 0 0))
        none := by
  obtain ⟨s, hs, hruns⟩ := exists_of_bind_eq_some
    (by decide +kernel : (read (Field.yearLimit 2025) .utc "0 0 0 30W 2 ?").toOption.bind
      (fun s => some (s.nextReading (.ofParts 375066 0 0 0),
        s.pass (Reading.next (.ofParts 375066 0 0 0)) (Reading.next (.ofParts 375066 0 0 0)),
        s.pass (Reading.next (.ofParts 375066 0 0 0)) (.ofParts 375066 1 0 0))) =
      some (none, .goTo (.ofParts 375066 1 0 0), .goTo (.ofParts 375067 0 0 0)))
  obtain ⟨hnext, hpasses⟩ := Prod.mk.inj (Option.some.inj hruns)
  obtain ⟨hfirst, hsecond⟩ := Prod.mk.inj hpasses
  obtain ⟨hforward, hrun, -⟩ := searchRun_of_read hs (.ofParts 375066 0 0 0)
  have hvisits : s.Visits (Reading.next (.ofParts 375066 0 0 0)) (.ofParts 375066 1 0 0) :=
    .restart .start (by decide) hfirst
  obtain ⟨hlate, hlater⟩ := hforward _ hvisits
  exact ⟨s, hs, hforward, ⟨hvisits, hsecond, hlate, hlater _ hsecond⟩, (hrun none).2 hnext.symm⟩

/-- A cursor that is just anywhere may be sent back: the workday nearest to Saturday
2024-06-15 is the Friday before it. A search from that Friday on has been there already. -/
example : (read (Field.yearLimit 2025) .utc "0 0 12 15W * ?").toOption.map
    (fun s => s.pass (.ofParts 19888 0 0 0) (.ofParts 19889 12 0 0)) =
      some (.goTo (.ofParts 19888 0 0 0)) := by
  decide +kernel

end Schedule

end CronSchedule
