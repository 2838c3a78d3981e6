import CronSchedule.Zone.Basic

/-!
# The moments that show a reading

`Zone.momentsOf` lists, in order, exactly the moments at which the wall clock
shows a reading (`mem_momentsOf`, `pairwise_momentsOf`), whatever the changes of
the zone are, as long as they come in order of time (`Zone.Ordered`). The
moments of a list of changes are those of its first span and those of the spans
after it, and what lies outside the window that `momentsOf` looks at has no say.
-/

namespace CronSchedule

namespace Zone

variable {zone : Zone} {changes : List Change} {current : Offset} {time bound : Int}
variable {reading : Reading}

/-- The changes of the zone come in order of time. -/
def Ordered (zone : Zone) : Prop :=
  zone.changes.Pairwise fun earlier later => earlier.time < later.time

instance (zone : Zone) : Decidable zone.Ordered :=
  inferInstanceAs (Decidable (List.Pairwise _ _))

/-! ## Looking an offset up -/

/-- Before all changes the offset is the current one. -/
theorem spanAmong_of_lt (h : ∀ change ∈ changes, time < change.time) :
    spanAmong time current changes = (current, changes) := by
  cases changes with
  | nil => rfl
  | cons change later => rw [spanAmong, if_pos (h change (by simp))]

/-- Looking up in two steps, the first at an earlier moment. -/
theorem spanAmong_spanAmong (h : bound ≤ time) :
    spanAmong time (spanAmong bound current changes).1 (spanAmong bound current changes).2 =
      spanAmong time current changes := by
  induction changes generalizing current with
  | nil => rfl
  | cons change later ih =>
    by_cases hb : bound < change.time
    · simp only [spanAmong, if_pos hb]
    · simp only [spanAmong, if_neg hb]
      rw [ih, if_neg (by omega)]

/-- Changes after a bound have no say at moments up to it. -/
theorem spanAmong_takeWhile (h : time ≤ bound) :
    (spanAmong time current (changes.takeWhile (·.time ≤ bound))).1 =
      (spanAmong time current changes).1 := by
  induction changes generalizing current with
  | nil => rfl
  | cons change later ih =>
    by_cases hb : change.time ≤ bound
    · rw [List.takeWhile_cons_of_pos (by simpa using hb), spanAmong, spanAmong]
      split
      · rfl
      · exact ih
    · rw [List.takeWhile_cons_of_neg (by simpa using hb), spanAmong, spanAmong,
        if_pos (by omega)]

/-! ## The moments of a reading -/

theorem all_le_iff {since : Option Int} :
    since.all (· ≤ time) = true ↔ ∀ begin ∈ since, begin ≤ time := by
  cases since <;> simp

/-- **The moments found are those that show the reading**, from where the first
span begins. -/
theorem mem_momentsAmong {since : Option Int}
    (hordered : changes.Pairwise fun earlier later => earlier.time < later.time)
    (hsince : ∀ begin ∈ since, ∀ change ∈ changes, begin < change.time) :
    time ∈ momentsAmong reading since current changes ↔
      (∀ begin ∈ since, begin ≤ time) ∧
        time + (spanAmong time current changes).1.seconds = reading.seconds := by
  induction changes generalizing since current with
  | nil =>
    have hmem : ∀ {c : Prop} [Decidable c] {x : Int},
        time ∈ (if c then [x] else []) ↔ time = x ∧ c := by
      intro c _ x
      split <;> simp [*]
    rw [momentsAmong, hmem, show (spanAmong time current []).1 = current from rfl]
    constructor
    · rintro ⟨rfl, hbegin⟩
      exact ⟨all_le_iff.1 hbegin, Int.sub_add_cancel ..⟩
    · rintro ⟨hbegin, heq⟩
      obtain rfl : time = reading.seconds - current.seconds := by omega
      exact ⟨rfl, all_le_iff.2 hbegin⟩
  | cons change later ih =>
    obtain ⟨hchange, hlater⟩ := List.pairwise_cons.1 hordered
    have hrest := @ih change.offset (some change.time) hlater (by simpa using hchange)
    have hmem : ∀ {c : Prop} [Decidable c] {x : Int} {rest : List Int},
        time ∈ (if c then x :: rest else rest) ↔ time = x ∧ c ∨ time ∈ rest := by
      intro c _ x rest
      split <;> simp [*]
    simp only [momentsAmong, hmem, hrest, Option.mem_some_iff, forall_eq']
    by_cases hlt : time < change.time
    · have hspan : (spanAmong time current (change :: later)).1 = current := by
        rw [spanAmong, if_pos hlt]
      rw [or_iff_left (by omega), hspan]
      constructor
      · rintro ⟨rfl, hbegin, -⟩
        exact ⟨all_le_iff.1 hbegin, Int.sub_add_cancel ..⟩
      · rintro ⟨hbegin, heq⟩
        obtain rfl : time = reading.seconds - current.seconds := by omega
        exact ⟨rfl, all_le_iff.2 hbegin, hlt⟩
    · rw [or_iff_right (by omega), spanAmong, if_neg hlt]
      refine and_congr_left fun _ => iff_of_true (by omega) fun begin hbegin => ?_
      have := hsince begin hbegin change (by simp)
      omega

/-- **The moments found come in order.** -/
theorem pairwise_momentsAmong {since : Option Int}
    (hordered : changes.Pairwise fun earlier later => earlier.time < later.time) :
    (momentsAmong reading since current changes).Pairwise (· < ·) := by
  induction changes generalizing since current with
  | nil =>
    simp only [momentsAmong]
    split <;> simp
  | cons change later ih =>
    obtain ⟨hchange, hlater⟩ := List.pairwise_cons.1 hordered
    simp only [momentsAmong]
    split
    · rename_i hfirst
      refine List.pairwise_cons.2 ⟨fun x hx => ?_, ih hlater⟩
      have := ((mem_momentsAmong hlater (by simpa using hchange)).1 hx).1 _ rfl
      omega
    · exact ih hlater

/-- The changes after a moment are changes of the zone. -/
theorem spanAmong_sublist : (spanAmong time current changes).2.Sublist changes := by
  induction changes generalizing current with
  | nil => exact .refl _
  | cons change later ih =>
    rw [spanAmong]
    split
    · exact .refl _
    · exact ih.cons _

/-- Between two moments the changes between them decide. -/
theorem offsetAt_eq_kept {low high : Int} (hlow : low ≤ time) (hhigh : time ≤ high) :
    (spanAmong time (zone.spanAt low).1 ((zone.spanAt low).2.takeWhile (·.time ≤ high))).1 =
      zone.offsetAt time := by
  rw [spanAmong_takeWhile hhigh, spanAt, spanAmong_spanAmong hlow]
  rfl

theorem readingAt_eq_iff :
    zone.readingAt time = reading ↔ time + (zone.offsetAt time).seconds = reading.seconds :=
  Reading.ext_iff

/-- **The wall clock shows a reading at exactly the moments found for it.** -/
theorem mem_momentsOf (hordered : zone.Ordered) :
    time ∈ zone.momentsOf reading ↔ zone.readingAt time = reading := by
  have hkept := hordered.sublist ((List.takeWhile_sublist (·.time ≤ reading.seconds + 86400)).trans
    (spanAmong_sublist : (zone.spanAt (reading.seconds - 86400)).2.Sublist zone.changes))
  have hmem : time ∈ zone.momentsOf reading ↔
      time + (spanAmong time (zone.spanAt (reading.seconds - 86400)).1
        ((zone.spanAt (reading.seconds - 86400)).2.takeWhile
          (·.time ≤ reading.seconds + 86400))).1.seconds = reading.seconds :=
    (mem_momentsAmong hkept (by simp)).trans (and_iff_right (by simp))
  -- Either way the moment lies in the window, where the kept changes decide.
  have hwindow : ∀ offset : Offset, time + offset.seconds = reading.seconds →
      reading.seconds - 86400 ≤ time ∧ time ≤ reading.seconds + 86400 := by
    intro offset h
    have := offset.lt_day
    omega
  rw [hmem, readingAt_eq_iff]
  constructor
  · intro h
    have hw := hwindow _ h
    rwa [offsetAt_eq_kept hw.1 hw.2] at h
  · intro h
    have hw := hwindow _ h
    rwa [offsetAt_eq_kept hw.1 hw.2]

theorem pairwise_momentsOf (hordered : zone.Ordered) :
    (zone.momentsOf reading).Pairwise (· < ·) :=
  pairwise_momentsAmong (hordered.sublist
    ((List.takeWhile_sublist _).trans spanAmong_sublist))

end Zone

end CronSchedule
