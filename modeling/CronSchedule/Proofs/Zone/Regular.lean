import CronSchedule.Proofs.Zone.Moments
import Mathlib.Data.List.Chain

/-!
# Zones with regular changes

The changes of a zone are `Spaced` when they are a day apart, and the zone
`SetsBackAtMost` a span when no change sets the clock back by more. In a spaced
zone a day sees one change at most (`offsetAt_cases`), and from there on
everything is said about readings: when the changes set the clock back by little
enough, a clock a day later shows more (`readingAt_lt`), a clock that shows less
is less than the span later (`sub_le_of_readingAt_le`), and what it shows it has
shown before (`exists_earlier_moment`). When they set it back by less than a day, a
clock still never falls behind what it showed after a change
(`readingAt_lt_of_changed`).
-/

namespace CronSchedule

namespace Zone

variable {zone : Zone} {changes : List Change} {current : Offset} {span : Int}
variable {t u v : Int}

/-- Changes are at least a day apart. -/
def Spaced (zone : Zone) : Prop :=
  zone.changes.Pairwise fun earlier later => earlier.time + 86400 ≤ later.time

instance (zone : Zone) : Decidable zone.Spaced :=
  inferInstanceAs (Decidable (List.Pairwise _ _))

/-- None of the changes, the offset before them being `current`, sets the clock
back by more than `span`. -/
def ChangesSetBackAtMost (span : Int) (current : Offset) : List Change → Prop
  | [] => True
  | change :: later =>
    current.seconds - change.offset.seconds ≤ span ∧
      ChangesSetBackAtMost span change.offset later

/-- No change sets the clock back by more than `span`. -/
def SetsBackAtMost (span : Int) (zone : Zone) : Prop :=
  ChangesSetBackAtMost span zone.base zone.changes

instance : ∀ (current : Offset) (changes : List Change),
    Decidable (ChangesSetBackAtMost span current changes)
  | _, [] => inferInstanceAs (Decidable True)
  | _, change :: later =>
    have := instDecidableChangesSetBackAtMost change.offset later
    inferInstanceAs (Decidable (_ ∧ _))

instance (span : Int) (zone : Zone) : Decidable (zone.SetsBackAtMost span) :=
  inferInstanceAs (Decidable (ChangesSetBackAtMost _ _ _))

/-- It is enough that neighbouring changes are a day apart. -/
theorem spaced_of_isChain
    (h : zone.changes.IsChain fun earlier later => earlier.time + 86400 ≤ later.time) :
    zone.Spaced := by
  have htrans : ∀ {a b c : Change}, a.time + 86400 ≤ b.time → b.time + 86400 ≤ c.time →
      a.time + 86400 ≤ c.time := by
    intro a b c hab hbc
    omega
  have : Trans (fun a b : Change => a.time + 86400 ≤ b.time)
      (fun a b : Change => a.time + 86400 ≤ b.time)
      (fun a b : Change => a.time + 86400 ≤ b.time) := ⟨htrans⟩
  exact List.isChain_iff_pairwise.1 h

theorem Spaced.ordered (h : zone.Spaced) : zone.Ordered :=
  h.imp fun hab => by omega

/-! ## One change a day -/

theorem spanAmong_of_le {change : Change} (h : change.time ≤ t) :
    spanAmong t current (change :: changes) = spanAmong t change.offset changes := by
  rw [spanAmong, if_neg (Int.not_lt.2 h)]

/-- In the day before and after a change, it is the only one. -/
theorem spanAmong_of_spaced {change : Change} (hle : change.time ≤ t)
    (hday : t < change.time + 86400)
    (hlater : ∀ later ∈ changes, change.time + 86400 ≤ later.time) :
    (spanAmong t current (change :: changes)).1 = change.offset := by
  rw [spanAmong_of_le hle, spanAmong_of_lt fun later hmem => by have := hlater later hmem; omega]

theorem offsetAmong_cases
    (hspaced : changes.Pairwise fun earlier later => earlier.time + 86400 ≤ later.time)
    (htu : t ≤ u) (huv : u ≤ v) (hday : v ≤ t + 86400) :
    (spanAmong t current changes).1 = (spanAmong u current changes).1 ∨
      (spanAmong u current changes).1 = (spanAmong v current changes).1 := by
  induction changes generalizing current with
  | nil => exact .inl rfl
  | cons change later ih =>
    obtain ⟨hchange, hlater⟩ := List.pairwise_cons.1 hspaced
    by_cases hu : u < change.time
    · rw [spanAmong, spanAmong, if_pos hu, if_pos (by omega)]
      exact .inl rfl
    · by_cases ht : t < change.time
      · rw [spanAmong_of_spaced (t := u) (by omega) (by omega) hchange,
          spanAmong_of_spaced (t := v) (by omega) (by omega) hchange]
        exact .inr rfl
      · rw [spanAmong_of_le (by omega), spanAmong_of_le (by omega), spanAmong_of_le (by omega)]
        exact ih hlater

theorem offsetAmong_sub_le (hspan : 0 ≤ span)
    (hspaced : changes.Pairwise fun earlier later => earlier.time + 86400 ≤ later.time)
    (hback : ChangesSetBackAtMost span current changes) (htu : t ≤ u) (hday : u ≤ t + 86400) :
    (spanAmong t current changes).1.seconds - (spanAmong u current changes).1.seconds ≤ span := by
  induction changes generalizing current with
  | nil =>
    rw [spanAmong, spanAmong, Int.sub_self]
    exact hspan
  | cons change later ih =>
    obtain ⟨hchange, hlater⟩ := List.pairwise_cons.1 hspaced
    by_cases hu : u < change.time
    · rw [spanAmong, spanAmong, if_pos hu, if_pos (by omega), Int.sub_self]
      exact hspan
    · by_cases ht : t < change.time
      · rw [spanAmong_of_spaced (t := u) (by omega) (by omega) hchange, spanAmong, if_pos ht]
        exact hback.1
      · rw [spanAmong_of_le (by omega), spanAmong_of_le (by omega)]
        exact ih hlater hback.2

/-- **A day sees one change at most**: in between, the offset is still that of the
beginning or already that of the end. -/
theorem offsetAt_cases (h : zone.Spaced) (htu : t ≤ u) (huv : u ≤ v) (hday : v ≤ t + 86400) :
    zone.offsetAt t = zone.offsetAt u ∨ zone.offsetAt u = zone.offsetAt v :=
  offsetAmong_cases h htu huv hday

/-- From where the clock shows no more than before, the day sees no other change. -/
theorem offsetAt_of_readingAt_le (h : zone.Spaced) (htu : t < u)
    (hle : zone.readingAt u ≤ zone.readingAt t) :
    (zone.offsetAt u).seconds < (zone.offsetAt t).seconds ∧
      ∀ x, u ≤ x → x ≤ t + 86400 → zone.offsetAt u = zone.offsetAt x := by
  have hlt : (zone.offsetAt u).seconds < (zone.offsetAt t).seconds := by
    simp only [Reading.le_def, readingAt] at hle
    omega
  refine ⟨hlt, fun x hux hday => ?_⟩
  refine (offsetAt_cases h (Int.le_of_lt htu) hux hday).resolve_left fun heq => ?_
  rw [heq] at hlt
  exact Int.lt_irrefl _ hlt

/-! ## Readings from a change on -/

/-- Before the next change comes, a span gains more than that change takes away. -/
theorem lt_spanAmong {start : Int} (hspan : span < 86400)
    (hspaced : changes.Pairwise fun earlier later => earlier.time + 86400 ≤ later.time)
    (hback : ChangesSetBackAtMost span current changes)
    (hfar : ∀ change ∈ changes, start + 86400 ≤ change.time) (hlt : start < u) :
    start + current.seconds < u + (spanAmong u current changes).1.seconds := by
  induction changes generalizing start current with
  | nil => exact Int.add_lt_add_right hlt _
  | cons change later ih =>
    obtain ⟨hchange, hlater⟩ := List.pairwise_cons.1 hspaced
    have hday := hfar change (by simp)
    have hset := hback.1
    by_cases hu : u < change.time
    · rw [spanAmong, if_pos hu]
      exact Int.add_lt_add_right hlt _
    · rw [spanAmong_of_le (by omega)]
      rcases Int.lt_or_eq_of_le (Int.not_lt.1 hu) with hlt' | rfl
      · have hrest := ih hlater hback.2 hchange hlt'
        omega
      · rw [spanAmong_of_lt fun later hmem => by have := hchange later hmem; omega]
        show start + current.seconds < change.time + change.offset.seconds
        omega

theorem lt_spanAmong_of_changed (hspan : span < 86400)
    (hspaced : changes.Pairwise fun earlier later => earlier.time + 86400 ≤ later.time)
    (hback : ChangesSetBackAtMost span current changes)
    (hchanged : (spanAmong (t - 1) current changes).1 ≠ (spanAmong t current changes).1)
    (hlt : t < u) :
    t + (spanAmong t current changes).1.seconds < u + (spanAmong u current changes).1.seconds := by
  induction changes generalizing current with
  | nil => exact absurd rfl hchanged
  | cons change later ih =>
    obtain ⟨hchange, hlater⟩ := List.pairwise_cons.1 hspaced
    by_cases ht : t < change.time
    · rw [spanAmong, spanAmong, if_pos ht, if_pos (by omega)] at hchanged
      exact absurd rfl hchanged
    · rw [spanAmong_of_le (by omega), spanAmong_of_le (by omega : change.time ≤ u)]
      by_cases hbefore : t - 1 < change.time
      · -- The change comes at `t`, where a span begins.
        obtain rfl : t = change.time := by omega
        rw [spanAmong_of_lt fun later hmem => by have := hchange later hmem; omega]
        exact lt_spanAmong hspan hlater hback.2 hchange hlt
      · rw [spanAmong_of_le (by omega), spanAmong_of_le (by omega)] at hchanged
        exact ih hlater hback.2 hchanged

/-- **From a change on, the clock never again shows as little** as it did at the change. -/
theorem readingAt_lt_of_changed (hspaced : zone.Spaced) (hback : zone.SetsBackAtMost span)
    (hspan : span < 86400) (hchanged : zone.offsetAt (t - 1) ≠ zone.offsetAt t) (hlt : t < u) :
    zone.readingAt t < zone.readingAt u :=
  lt_spanAmong_of_changed hspan hspaced hback hchanged hlt

/-! ## Readings of a clock that is set back by little -/

section

variable (hspaced : zone.Spaced) (hback : zone.SetsBackAtMost span) (hspan : 0 ≤ span)
include hspaced hback hspan

theorem offsetAt_sub_le (htu : t ≤ u) (hday : u ≤ t + 86400) :
    (zone.offsetAt t).seconds - (zone.offsetAt u).seconds ≤ span :=
  offsetAmong_sub_le hspan hspaced hback htu hday

/-- Within a day the clock loses the span at most. -/
theorem le_readingAt (htu : t ≤ u) (hday : u ≤ t + 86400) :
    (zone.readingAt t).seconds + (u - t) ≤ (zone.readingAt u).seconds + span := by
  have hle := offsetAt_sub_le hspaced hback hspan htu hday
  simp only [readingAt]
  omega

/-- **A clock shows more a day later**, and from then on. -/
theorem readingAt_lt (hhalf : 2 * span < 86400) (hday : t + 86400 ≤ u) :
    zone.readingAt t < zone.readingAt u := by
  -- Two days lose the span twice, which is less than the first of them gains.
  have htwo : ∀ {t}, t + 86400 ≤ u → u ≤ t + 2 * 86400 → zone.readingAt t < zone.readingAt u := by
    intro t hday hle
    have hfirst := le_readingAt hspaced hback hspan (t := t) (u := t + 86400) (by omega) (by omega)
    have hrest := le_readingAt hspaced hback hspan hday (by omega)
    simp only [Reading.lt_def]
    omega
  -- From there the induction is on the days between.
  obtain ⟨days, hdays⟩ : ∃ days : Nat, u ≤ t + 86400 * (days + 2) :=
    ⟨((u - t) / 86400).toNat, by omega⟩
  induction days generalizing t with
  | zero => exact htwo hday (by omega)
  | succ days ih =>
    by_cases hle : u ≤ t + 2 * 86400
    · exact htwo hday hle
    · have hfirst := le_readingAt hspaced hback hspan (t := t) (u := t + 86400)
        (by omega) (by omega)
      have hrest := @ih (t + 86400) (by omega) (by omega)
      simp only [Reading.lt_def] at hrest ⊢
      omega

/-- A clock that shows no more than before is back within the span. -/
theorem sub_le_of_readingAt_le (hhalf : 2 * span < 86400) (htu : t ≤ u)
    (hle : zone.readingAt u ≤ zone.readingAt t) : u - t ≤ span := by
  have hday : u < t + 86400 := Int.lt_of_not_ge fun hday =>
    Int.not_lt.2 hle (readingAt_lt hspaced hback hspan hhalf hday)
  have := le_readingAt hspaced hback hspan htu (Int.le_of_lt hday)
  simp only [Reading.le_def] at hle
  omega

/-- **What a clock shows after it was set back, it has shown before**, at a moment
from which on it was not set. -/
theorem exists_earlier_moment (hhalf : 2 * span < 86400) (htu : t < u)
    (hlt : zone.readingAt u < zone.readingAt t) :
    ∃ v, v < t ∧ zone.readingAt v = zone.readingAt u ∧
      ∀ x, v ≤ x → x ≤ t → zone.offsetAt x = zone.offsetAt t := by
  have hsub := sub_le_of_readingAt_le hspaced hback hspan hhalf (Int.le_of_lt htu)
    (Int.le_of_lt hlt)
  have hle := offsetAt_sub_le hspaced hback hspan (Int.le_of_lt htu) (by omega)
  simp only [Reading.lt_def, readingAt] at hlt
  -- The moment at which the offset of the beginning shows what the end shows.
  obtain ⟨v, hv⟩ : ∃ v, v + (zone.offsetAt t).seconds = u + (zone.offsetAt u).seconds :=
    ⟨_, Int.sub_add_cancel ..⟩
  have hvt : v < t := by omega
  have hsame : zone.offsetAt v = zone.offsetAt t := by
    refine (offsetAt_cases hspaced (Int.le_of_lt hvt) (Int.le_of_lt htu)
      (by omega)).resolve_right fun h => ?_
    rw [h] at hlt
    omega
  refine ⟨v, hvt, ?_, fun x hvx hxt => ?_⟩
  · ext
    simp only [readingAt, hsame]
    exact hv
  · rcases offsetAt_cases hspaced hvx hxt (by omega) with h | h
    · rw [← h, hsame]
    · exact h

end

end Zone

end CronSchedule
