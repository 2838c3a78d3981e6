import CronSchedule.Proofs.Schedule.Allows
import CronSchedule.Search.Reading

/-!
# The moves of the search

A move of the cursor is right if it keeps the cursor where the field allows it,
and otherwise leads forward without passing over anything that the field allows:
`Move.Leads`. Each field's move is right in this sense; those of the fields from
the second to the hour and those of the month and the year are treated here. The
move of the day depends on how the cursor came to its date and has a module of
its own.
-/

namespace CronSchedule

open Calendar

/-- In an ordered list, what is found first comes before all else of its kind. -/
theorem first_of_find? {α : Type} {R : α → α → Prop} {p : α → Bool} {l : List α} {x y : α}
    (hordered : l.Pairwise R) (hx : l.find? p = some x) (hy : y ∈ l) (hp : p y = true) :
    y = x ∨ R x y := by
  obtain ⟨-, before, after, rfl, hbefore⟩ := List.find?_eq_some_iff_append.1 hx
  rw [List.pairwise_append, List.pairwise_cons] at hordered
  rcases List.mem_append.1 hy with hy | hy
  · have hnot := hbefore y hy
    simp [hp] at hnot
  · exact (List.mem_cons.1 hy).imp_right (hordered.2.1.1 y)

namespace ValueSet

/-- The least member from a value on, if there is one. -/
theorem next?_eq_some {set : ValueSet} {value next : Nat} (h : set.next? value = some next) :
    next ∈ set.values ∧ value ≤ next ∧ ∀ x ∈ set.values, value ≤ x → next ≤ x := by
  refine ⟨List.mem_of_find?_eq_some h, by simpa using List.find?_some h, fun x hx hvx => ?_⟩
  have := first_of_find? set.sorted h hx (by simpa using hvx)
  omega

theorem next?_eq_none {set : ValueSet} {value : Nat} (h : set.next? value = none) :
    ∀ x ∈ set.values, x < value := by
  intro x hx
  have := List.find?_eq_none.1 h x hx
  simpa using this

end ValueSet

namespace Schedule

variable {s : Schedule} {cursor : Reading}

theorem leastOf_spec {set : ValueSet} (h : set.values ≠ []) :
    leastOf set ∈ set.values ∧ ∀ x ∈ set.values, leastOf set ≤ x := by
  have hsorted := set.sorted
  unfold leastOf ValueSet.first?
  cases hv : set.values with
  | nil => exact absurd hv h
  | cons first rest =>
    rw [hv, List.pairwise_cons] at hsorted
    refine ⟨by simp, fun x hx => ?_⟩
    rcases List.mem_cons.1 hx with rfl | hx
    · exact Nat.le_refl _
    · exact Nat.le_of_lt (hsorted.1 x hx)

namespace Move

/-- **The move is right for what is allowed**: it stays at an allowed cursor,
and leads on to a later reading only past readings that are not allowed. -/
def Leads (allowed : Reading → Prop) (cursor : Reading) : Move → Prop
  | stay => allowed cursor
  | goTo later => cursor < later ∧ ∀ r, cursor ≤ r → r < later → ¬ allowed r
  | never => ∀ r, cursor ≤ r → ¬ allowed r

variable {p q : Reading → Prop} {first second third : Move}

theorem orElse_assoc : ((first <|> second) <|> third) = (first <|> second <|> third) := by
  cases first <;> rfl

/-- The wishes of two fields, the first one's first, are right for what both allow. -/
theorem Leads.orElse (h₁ : first.Leads p cursor) (h₂ : first = stay → second.Leads q cursor) :
    (first <|> second).Leads (fun r => p r ∧ q r) cursor := by
  cases first with
  | stay =>
    -- The second wish decides; what it passes over breaks `q`.
    change second.Leads (fun r => p r ∧ q r) cursor
    have h₂ := h₂ rfl
    cases second with
    | stay => exact ⟨h₁, h₂⟩
    | goTo later => exact ⟨h₂.1, fun r hr hlt hpq => h₂.2 r hr hlt hpq.2⟩
    | never => exact fun r hr hpq => h₂ r hr hpq.2
  | goTo later => exact ⟨h₁.1, fun r hr hlt hpq => h₁.2 r hr hlt hpq.1⟩
  | never => exact fun r hr hpq => h₁ r hr hpq.1

theorem orElse_eq_goTo {later : Reading} (h : (first <|> second) = goTo later) :
    first = goTo later ∨ (first = stay ∧ second = goTo later) := by
  cases first with
  | stay => exact .inr ⟨rfl, h⟩
  | goTo r => exact .inl h
  | never => exact absurd h (by intro h; cases h)

end Move

/-- **The move to an allowed value.** A part `part` of the reading has to be in a
set. On the way to a larger value the part stays between, and on the way round to
the least value of the set it is not below the cursor's, or it is below the least. -/
theorem leads_of_next? {set : ValueSet} (part : Reading → Nat) (target : Nat → Reading)
    {around : Reading} (hne : set.values ≠ [])
    (htarget : ∀ value ∈ set.values, part cursor < value → cursor < target value ∧
      ∀ r, cursor ≤ r → r < target value → part cursor ≤ part r ∧ part r < value)
    (haround : leastOf set < part cursor → cursor < around ∧
      ∀ r, cursor ≤ r → r < around → part cursor ≤ part r ∨ part r < leastOf set) :
    (match set.next? (part cursor) with
      | some value => if value = part cursor then Move.stay else .goTo (target value)
      | none => .goTo around).Leads (fun r => part r ∈ set.values) cursor := by
  split
  · rename_i value hv
    obtain ⟨hmem, hle, hleast⟩ := ValueSet.next?_eq_some hv
    split
    · rename_i heq
      rw [heq] at hmem
      exact hmem
    · obtain ⟨hlt, hskip⟩ := htarget value hmem (by omega)
      refine ⟨hlt, fun r hr hrt hin => ?_⟩
      have := hskip r hr hrt
      have := hleast _ hin this.1
      omega
  · rename_i hv
    have hbelow := ValueSet.next?_eq_none hv
    obtain ⟨hmem, hleast⟩ := leastOf_spec hne
    obtain ⟨hlt, hskip⟩ := haround (hbelow _ hmem)
    refine ⟨hlt, fun r hr hra hin => ?_⟩
    have h₁ := hbelow _ hin
    have h₂ := hleast _ hin
    have := hskip r hr hra
    omega

/-! ## The time of day -/

section
variable {yearLimit : Nat} (hs : s.WellFormed yearLimit)
include hs

theorem leastOf_le (field : Field) (h : field.isDay = false) :
    leastOf (s.field field) ≤ field.greatest yearLimit :=
  (hs.bounds field _ (leastOf_spec (hs.nonempty field h)).1).2

theorem settleSecond_leads (cursor : Reading) :
    (s.settleSecond cursor).second ∈ (s.field .second).values ∧
      ∀ r, cursor ≤ r → r < s.settleSecond cursor → r.second ∉ (s.field .second).values := by
  have hc := cursor.parts_spec
  unfold settleSecond
  split
  · rename_i second hv
    obtain ⟨hmem, hle, hleast⟩ := ValueSet.next?_eq_some hv
    have hbound := (hs.bounds _ _ hmem).2
    simp only [Field.greatest] at hbound
    rw [Reading.second_ofParts _ _ _ (by omega)]
    refine ⟨hmem, fun r hr hrt hin => ?_⟩
    have := r.parts_spec
    have := hleast _ hin
    simp only [Reading.le_def, Reading.lt_def, Reading.ofParts] at *
    omega
  · rename_i hv
    have hbelow := ValueSet.next?_eq_none hv
    obtain ⟨hmem, hleast⟩ := leastOf_spec (hs.nonempty .second rfl)
    have hbound := (hs.bounds _ _ hmem).2
    simp only [Field.greatest] at hbound
    rw [Reading.second_ofParts _ _ _ (by omega)]
    -- On the way round, a listed second lies neither in this minute nor before the least one.
    refine ⟨hmem, fun r hr hrt hin => ?_⟩
    have := r.parts_spec
    have := hbelow _ hin
    have := hleast _ hin
    simp only [Reading.le_def, Reading.lt_def, Reading.ofParts] at *
    omega

theorem moveMinute_leads :
    (s.moveMinute cursor).Leads (fun r => r.minute ∈ (s.field .minute).values) cursor := by
  have hc := cursor.parts_spec
  have hleast := leastOf_le hs .minute rfl
  refine leads_of_next? Reading.minute
    (fun minute => .ofParts cursor.dayNumber cursor.hour minute 0)
    (hs.nonempty .minute rfl) (fun minute hmem hlt => ?_) fun hlt => ?_
  · have hbound := (hs.bounds _ _ hmem).2
    simp only [Field.greatest] at hbound
    simp only [Reading.le_def, Reading.lt_def, Reading.ofParts]
    refine ⟨by omega, fun r hr hrt => ?_⟩
    have := r.parts_spec
    omega
  · simp only [Field.greatest] at hleast
    simp only [Reading.le_def, Reading.lt_def, Reading.ofParts]
    refine ⟨by omega, fun r hr hrt => ?_⟩
    have := r.parts_spec
    omega

theorem moveHour_leads :
    (s.moveHour cursor).Leads (fun r => r.hour ∈ (s.field .hour).values) cursor := by
  have hc := cursor.parts_spec
  have hleast := leastOf_le hs .hour rfl
  refine leads_of_next? Reading.hour (fun hour => .ofParts cursor.dayNumber hour 0 0)
    (hs.nonempty .hour rfl) (fun hour hmem hlt => ?_) fun hlt => ?_
  · have hbound := (hs.bounds _ _ hmem).2
    simp only [Field.greatest] at hbound
    simp only [Reading.le_def, Reading.lt_def, Reading.ofParts]
    refine ⟨by omega, fun r hr hrt => ?_⟩
    have := r.parts_spec
    omega
  · simp only [Field.greatest] at hleast
    simp only [Reading.le_def, Reading.lt_def, Reading.ofParts]
    refine ⟨by omega, fun r hr hrt => ?_⟩
    have := r.parts_spec
    omega

/-! ## The month and the year -/

theorem moveMonth_leads :
    (s.moveMonth cursor).Leads (fun r => r.date.month ∈ (s.field .month).values) cursor := by
  have hv := cursor.valid_date
  have hleast := leastOf_le hs .month rfl
  have hleast' := (hs.bounds _ _ (leastOf_spec (hs.nonempty .month rfl)).1).1
  simp only [Field.greatest, Field.least] at hleast hleast'
  -- From the cursor on, months only come again in later years.
  have hmonth : ∀ r : Reading, cursor ≤ r →
      cursor.date.year < r.date.year ∨
        (cursor.date.year = r.date.year ∧ cursor.date.month ≤ r.date.month) := by
    intro r hr
    have h := Reading.lt_ofDate_month_iff r cursor.date.year hv.1
      (by have := hv.2.1; omega)
    have := cursor.monthStart_le
    simp only [Reading.monthStart, Reading.le_def, Reading.lt_def] at *
    omega
  refine leads_of_next? (fun r => r.date.month) (fun month => .ofDate ⟨cursor.date.year, month, 1⟩)
    (hs.nonempty .month rfl) (fun month hmem hlt => ?_) fun hlt => ?_
  · have hbound := hs.bounds _ _ hmem
    simp only [Field.greatest, Field.least] at hbound
    rw [Reading.lt_ofDate_month_iff _ _ hbound.1 (by omega)]
    refine ⟨.inr ⟨rfl, hlt⟩, fun r hr hrt => ?_⟩
    rw [Reading.lt_ofDate_month_iff _ _ hbound.1 (by omega)] at hrt
    have := hmonth r hr
    omega
  · rw [Reading.lt_ofDate_month_iff _ _ hleast' (by omega)]
    refine ⟨.inl (by omega), fun r hr hrt => ?_⟩
    rw [Reading.lt_ofDate_month_iff _ _ hleast' (by omega)] at hrt
    have := hmonth r hr
    omega

end

theorem moveYear_leads :
    (s.moveYear cursor).Leads
      (fun r => ∃ year ∈ (s.field .year).values, (year : Int) = r.date.year) cursor := by
  unfold moveYear
  split
  · rename_i year hv
    obtain ⟨hmem, hle, hleast⟩ := ValueSet.next?_eq_some hv
    split
    · rename_i heq
      exact ⟨year, hmem, heq⟩
    · rename_i hne
      refine ⟨?_, fun r hr hrt => ?_⟩
      · rw [Reading.lt_ofDate_month_iff _ _ (by omega) (by omega)]
        omega
      · rintro ⟨other, hother, heq⟩
        rw [Reading.lt_ofDate_month_iff _ _ (by omega) (by omega)] at hrt
        have := Reading.year_le_year hr
        have := hleast other hother (by omega)
        have := r.valid_date.1
        omega
  · rename_i hv
    rintro r hr ⟨other, hother, heq⟩
    have := ValueSet.next?_eq_none hv other hother
    have := Reading.year_le_year hr
    omega

end Schedule

end CronSchedule
