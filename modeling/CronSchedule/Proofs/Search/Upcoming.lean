import CronSchedule.Proofs.Search.Previous
import CronSchedule.Proofs.Search.Satisfied
import Mathlib.Order.Basic

/-!
# Forwards and backwards the same fire times

`upcoming` goes from one fire time to the next, and `preceding` from one to the last
before it. Both take the steps of a search for the first of a kind (`IsSearch`), and such
steps list whatever of that kind there is, in order and without repetition, up to any
bound (`filter_stepsFrom`). Between two instants that list is made of the satisfied
seconds, and the backward one is the same, reversed (`upcoming_preceding_agree`).
-/

namespace CronSchedule

instance : Preorder Instant where
  le_refl _ := .inr ⟨rfl, Nat.le_refl _⟩
  le_trans a b c := by
    simp only [Instant.le_def]
    omega
  lt_iff_le_not_ge a b := by
    simp only [Instant.lt_def, Instant.le_def]
    omega

/-! ## Lists by steps -/

section

variable {α : Type} {R : α → α → Prop} {P D : α → Prop} {next : α → Option α} {a b : α}

/-- What up to `count` steps from an element come to. -/
def stepsFrom (next : α → Option α) (a : α) : Nat → List α
  | 0 => []
  | count + 1 =>
    match next a with
    | some t => t :: stepsFrom next t count
    | none => []

/-- In a sorted list, what comes before all others stands first. -/
theorem exists_eq_cons [IsTrans α R] [Std.Irrefl R] {times : List α} (hsorted : times.Pairwise R)
    (ha : a ∈ times) (hfrom : ∀ t ∈ times, a = t ∨ R a t) : ∃ rest, times = a :: rest := by
  cases times with
  | nil => cases ha
  | cons head rest =>
    rcases hfrom head List.mem_cons_self with rfl | hbefore
    · exact ⟨rest, rfl⟩
    · rcases List.mem_cons.1 ha with rfl | ha
      · exact ⟨rest, rfl⟩
      · have := (List.pairwise_cons.1 hsorted).1 a ha
        exact absurd (IsTrans.trans _ _ _ hbefore this) (irrefl a)

/-- What comes after the head of a sorted list is its tail. -/
theorem mem_tail_iff [IsTrans α R] [Std.Irrefl R] {first : α} {rest : List α}
    (hsorted : (first :: rest).Pairwise R)
    (hmem : ∀ t, t ∈ first :: rest ↔ (R a t ∧ R t b) ∧ P t) (t : α) :
    t ∈ rest ↔ (R first t ∧ R t b) ∧ P t := by
  obtain ⟨⟨hafter, -⟩, -⟩ := (hmem first).1 List.mem_cons_self
  constructor
  · intro ht
    have := (hmem t).1 (List.mem_cons_of_mem _ ht)
    exact ⟨⟨(List.pairwise_cons.1 hsorted).1 t ht, this.1.2⟩, this.2⟩
  · rintro ⟨⟨hlater, hbefore⟩, hkind⟩
    have := (hmem t).2 ⟨⟨IsTrans.trans _ _ _ hafter hlater, hbefore⟩, hkind⟩
    rcases List.mem_cons.1 this with rfl | ht
    · exact absurd hlater (irrefl t)
    · exact ht

/-- **A search that steps to the first element of a kind** after the one that it starts
from, in the order `R`, wherever it may start from, and may go on from there. -/
structure IsSearch (R : α → α → Prop) (P D : α → Prop) (next : α → Option α) : Prop where
  isFirst : ∀ a, D a → IsFirst (fun x y => x = y ∨ R x y) (fun t => R a t ∧ P t) (next a)
  goesOn : ∀ a t, D a → R a t → P t → D t

namespace IsSearch

/-- Every step leads onwards. -/
theorem forall_mem_stepsFrom [IsTrans α R] (h : IsSearch R P D next) (ha : D a) (count : Nat) :
    ∀ t ∈ stepsFrom next a count, R a t := by
  induction count generalizing a with
  | zero => exact nofun
  | succ count ih =>
    have hfirst := h.isFirst a ha
    unfold stepsFrom
    cases hnext : next a with
    | none => exact nofun
    | some first =>
      rw [hnext] at hfirst
      obtain ⟨⟨hafter, hkind⟩, -⟩ := hfirst
      intro t ht
      rcases List.mem_cons.1 ht with rfl | ht
      · exact hafter
      · exact IsTrans.trans _ _ _ hafter (ih (h.goesOn a first ha hafter hkind) t ht)

/-- If the first step leads past a bound, so do all others. -/
theorem filter_stepsFrom_eq_nil [IsTrans α R] [DecidableRel R] (h : IsSearch R P D next)
    (hb : ¬ R a b) (ha : D a) (count : Nat) :
    (a :: stepsFrom next a count).filter (R · b) = [] := by
  refine List.filter_eq_nil_iff.2 fun t ht => ?_
  rw [decide_eq_true_iff]
  intro hbefore
  rcases List.mem_cons.1 ht with rfl | ht
  · exact hb hbefore
  · exact hb (IsTrans.trans _ _ _ (h.forall_mem_stepsFrom ha count t ht) hbefore)

/-- **The steps list all of a kind**, up to any bound, in order and without repetition. -/
theorem filter_stepsFrom [IsTrans α R] [Std.Irrefl R] [DecidableRel R] (h : IsSearch R P D next)
    (ha : D a) {times : List α} (hsorted : times.Pairwise R)
    (hmem : ∀ t, t ∈ times ↔ (R a t ∧ R t b) ∧ P t) (count : Nat) :
    (stepsFrom next a count).filter (R · b) = times.take count := by
  -- The induction is on the number of steps; the first one takes the head off the list.
  induction count generalizing a times with
  | zero => rfl
  | succ count ih =>
    have hfirst := h.isFirst a ha
    unfold stepsFrom
    cases hnext : next a with
    | none =>
      rw [hnext] at hfirst
      obtain rfl : times = [] := List.eq_nil_iff_forall_not_mem.2 fun t ht =>
        hfirst t ⟨((hmem t).1 ht).1.1, ((hmem t).1 ht).2⟩
      rfl
    | some first =>
      rw [hnext] at hfirst
      obtain ⟨⟨hafter, hkind⟩, hleast⟩ := hfirst
      have hgoesOn := h.goesOn a first ha hafter hkind
      have hfrom : ∀ t ∈ times, first = t ∨ R first t := fun t ht =>
        hleast t ⟨((hmem t).1 ht).1.1, ((hmem t).1 ht).2⟩
      by_cases hbound : R first b
      · obtain ⟨rest, rfl⟩ :=
          exists_eq_cons hsorted ((hmem first).2 ⟨⟨hafter, hbound⟩, hkind⟩) hfrom
        rw [List.filter_cons_of_pos (by simpa using hbound), List.take_succ_cons]
        exact congrArg _ (ih hgoesOn (List.pairwise_cons.1 hsorted).2 (mem_tail_iff hsorted hmem))
      · obtain rfl : times = [] := by
          refine List.eq_nil_iff_forall_not_mem.2 fun t ht => hbound ?_
          rcases hfrom t ht with rfl | hlater
          · exact ((hmem _).1 ht).1.2
          · exact IsTrans.trans _ _ _ hlater ((hmem t).1 ht).1.2
        exact h.filter_stepsFrom_eq_nil hbound hgoesOn count

end IsSearch

end

namespace Schedule

variable {s : Schedule} {a b : Instant} {yearLimit : Nat}

theorem upcoming_eq_stepsFrom (s : Schedule) (a : Instant) (count : Nat) :
    s.upcoming a count = stepsFrom s.nextAfter a count := by
  fun_induction upcoming s a count with
  | case1 => rfl
  | case2 a count time hnext ih => simp only [stepsFrom, hnext, ih]
  | case3 a count hnext => simp only [stepsFrom, hnext]

theorem preceding_eq_stepsFrom (s : Schedule) (b : Instant) (count : Nat) :
    s.preceding b count = stepsFrom s.previousBefore b count := by
  fun_induction preceding s b count with
  | case1 => rfl
  | case2 b count time hprevious ih => simp only [stepsFrom, hprevious, ih]
  | case3 b count hnone => simp only [stepsFrom, hnone]

/-- The instant is a fire time: a whole second that the schedule fires at. -/
def IsFireTime (s : Schedule) (t : Instant) : Prop :=
  t.nanos = 0 ∧ s.FiresAt t.seconds

theorem exists_eq_ofSeconds {t : Instant} (h : t.nanos = 0) : ∃ x, t = .ofSeconds x :=
  ⟨t.seconds, Instant.ext rfl h⟩

theorem eq_or_lt_ofSeconds {x y : Int} (hle : x ≤ y) :
    Instant.ofSeconds x = .ofSeconds y ∨ Instant.ofSeconds x < .ofSeconds y := by
  rcases Int.lt_or_eq_of_le hle with hlt | rfl
  · exact .inr (.inl hlt)
  · exact .inl rfl

theorem isFireTime_ofSeconds {x : Int} : s.IsFireTime (.ofSeconds x) ↔ s.FiresAt x :=
  and_iff_right rfl

/-- The seconds that begin between two instants, in their order. -/
def secondsBetween (a b : Instant) : List Int :=
  (List.range (ceiling b - (a.seconds + 1)).toNat).map fun k : Nat => a.seconds + 1 + k

theorem mem_secondsBetween {x : Int} :
    x ∈ secondsBetween a b ↔ a < .ofSeconds x ∧ .ofSeconds x < b := by
  rw [lt_ofSeconds_iff, ofSeconds_lt_iff, secondsBetween, List.mem_map]
  constructor
  · rintro ⟨k, hk, rfl⟩
    have := List.mem_range.1 hk
    omega
  · rintro ⟨hafter, hbefore⟩
    exact ⟨(x - (a.seconds + 1)).toNat, List.mem_range.2 (by omega), by omega⟩

theorem pairwise_secondsBetween : (secondsBetween a b).Pairwise (· < ·) := by
  refine List.pairwise_map.2 (List.pairwise_lt_range.imp ?_)
  intro k later hlt
  omega

/-- **The fire times between two instants**, in their order. -/
def fireTimesBetween (s : Schedule) (a b : Instant) : List Instant :=
  ((secondsBetween a b).filter s.FiresAt).map .ofSeconds

theorem mem_fireTimesBetween {t : Instant} :
    t ∈ s.fireTimesBetween a b ↔ (a < t ∧ t < b) ∧ s.IsFireTime t := by
  unfold fireTimesBetween
  rw [List.mem_map]
  constructor
  · rintro ⟨x, hx, rfl⟩
    obtain ⟨hmem, hfires⟩ := List.mem_filter.1 hx
    exact ⟨mem_secondsBetween.1 hmem, isFireTime_ofSeconds.2 (of_decide_eq_true hfires)⟩
  · rintro ⟨hbetween, hwhole, hfires⟩
    obtain ⟨x, rfl⟩ := exists_eq_ofSeconds hwhole
    refine ⟨x, List.mem_filter.2 ⟨mem_secondsBetween.2 hbetween, ?_⟩, rfl⟩
    exact decide_eq_true hfires

theorem pairwise_fireTimesBetween : (s.fireTimesBetween a b).Pairwise (· < ·) := by
  refine List.pairwise_map.2 ((pairwise_secondsBetween.filter _).imp ?_)
  intro x y hlt
  exact .inl hlt

/-- A first second is a first instant, where only whole seconds are of the kind. -/
theorem isFirst_map_ofSeconds {le : Int → Int → Prop} {R : Instant → Instant → Prop}
    {P : Int → Prop} {Q : Instant → Prop} {answer : Option Int} (hfirst : IsFirst le P answer)
    (hle : ∀ x y, le x y → R (.ofSeconds x) (.ofSeconds y))
    (hiff : ∀ x, Q (.ofSeconds x) ↔ P x) (hwhole : ∀ t, Q t → t.nanos = 0) :
    IsFirst R Q (answer.map .ofSeconds) := by
  cases answer with
  | none =>
    intro t ht
    obtain ⟨x, rfl⟩ := exists_eq_ofSeconds (hwhole t ht)
    exact hfirst x ((hiff x).1 ht)
  | some first =>
    refine ⟨(hiff first).2 hfirst.1, fun t ht => ?_⟩
    obtain ⟨x, rfl⟩ := exists_eq_ofSeconds (hwhole t ht)
    exact hle first x (hfirst.2 x ((hiff x).1 ht))

section

variable (hs : s.WellFormed yearLimit) (hlimit : yearLimit ≤ Field.lastYear)
  (hspaced : s.zone.Spaced) (hback : s.zone.SetsBackAtMost repeatLookahead)
include hs hlimit hspaced hback

theorem isSearch_nextAfter :
    IsSearch (· < ·) s.IsFireTime (fun t => ¬ t.InLeapSecond) s.nextAfter where
  isFirst a ha := by
    obtain ⟨answer, heq, hfirst⟩ := nextAfter_isFirst hs hlimit hspaced hback ha
    rw [heq]
    refine isFirst_map_ofSeconds hfirst (fun x y hle => ?_) (fun x => ?_) fun t ht => ht.2.1
    · exact eq_or_lt_ofSeconds hle
    · rw [lt_ofSeconds_iff, isFireTime_ofSeconds]
  goesOn a t _ _ ht := by
    rw [Instant.InLeapSecond, ht.1]
    decide

theorem isSearch_previousBefore :
    IsSearch (· > ·) s.IsFireTime (· ≤ .ofSeconds (earliestStart + longestBackStep))
      s.previousBefore where
  isFirst b hb := by
    have hends := longestStepEnds_of_withinReach hs hlimit hspaced hback (.inl hb)
    obtain ⟨answer, heq, hlast⟩ := previousBefore_isLast hs hlimit hspaced hback hends
    rw [heq]
    refine isFirst_map_ofSeconds hlast (fun x y hge => ?_) (fun x => ?_) fun t ht => ht.2.1
    · exact (eq_or_lt_ofSeconds hge).imp_left Eq.symm
    · rw [gt_iff_lt, isFireTime_ofSeconds]
  goesOn b t hb hlt _ := (le_of_lt hlt).trans hb

end

/-- **Between two instants, going on from the first and going back from the second come
to the same fire times**, and these are the satisfied seconds there. Every search back
from the second instant, or from before it, ends. -/
theorem upcoming_preceding_agree {currentYear : Int} {zone : Zone} {text : String}
    (h : read (Field.yearLimit currentYear) zone text = .ok s) (hspaced : zone.Spaced)
    (hback : zone.SetsBackAtMost repeatLookahead) (ha : ¬ a.InLeapSecond)
    (hb : b ≤ .ofSeconds (earliestStart + longestBackStep)) :
    (∀ t ≤ b, ∀ answer, s.PreviousRun t answer ↔ answer = s.previousBefore t) ∧
    ∃ times : List Instant, times.Pairwise (· < ·) ∧
      (∀ t, t ∈ times ↔ (a < t ∧ t < b) ∧ t.nanos = 0 ∧ s.isSatisfiedBy t = true) ∧
      ∀ count, (s.upcoming a count).filter (· < b) = times.take count ∧
        (s.preceding b count).filter (a < ·) = times.reverse.take count := by
  obtain ⟨hs, hlimit, rfl⟩ := searchable_of_read h
  refine ⟨fun t ht answer => ?_, ?_⟩
  · have hends := longestStepEnds_of_withinReach hs hlimit hspaced hback (.inl (ht.trans hb))
    rw [previousRun_iff hs hlimit hspaced hback, and_iff_right hends]
  refine ⟨s.fireTimesBetween a b, pairwise_fireTimesBetween, fun t => ?_, fun count => ⟨?_, ?_⟩⟩
  · rw [mem_fireTimesBetween, isSatisfiedBy_iff_firesAt hs hlimit hspaced hback (by decide)]
    rfl
  · rw [upcoming_eq_stepsFrom]
    exact (isSearch_nextAfter hs hlimit hspaced hback).filter_stepsFrom ha
      pairwise_fireTimesBetween (fun t => mem_fireTimesBetween) count
  · rw [preceding_eq_stepsFrom]
    refine (isSearch_previousBefore hs hlimit hspaced hback).filter_stepsFrom hb
      (List.pairwise_reverse.2 pairwise_fireTimesBetween) (fun t => ?_) count
    rw [List.mem_reverse, mem_fireTimesBetween]
    exact and_congr_left fun _ => and_comm

/-- At Casey the clock went back by three hours on 2010-03-05 at two in the morning, and
from the evening before to the next one there are two midnights. -/
theorem upcoming_preceding_agree_midnights :
    ∃ s, read (Field.yearLimit 2025) .antarcticaCasey "0 0 0 * * ?" = .ok s ∧
      Zone.antarcticaCasey.Spaced ∧ Zone.antarcticaCasey.SetsBackAtMost repeatLookahead ∧
      ¬ Instant.InLeapSecond ⟨1267700000, 500000000⟩ ∧
      (⟨1267780000, 0⟩ : Instant) ≤ .ofSeconds (earliestStart + longestBackStep) ∧
      (∀ t, t ∈ [Instant.ofSeconds 1267707600, .ofSeconds 1267718400] ↔
        (⟨1267700000, 500000000⟩ < t ∧ t < ⟨1267780000, 0⟩) ∧ t.nanos = 0 ∧
          s.isSatisfiedBy t = true) ∧
      ∀ count, (s.preceding ⟨1267780000, 0⟩ count).filter (⟨1267700000, 500000000⟩ < ·) =
        [Instant.ofSeconds 1267718400, .ofSeconds 1267707600].take count := by
  have hspaced : Zone.antarcticaCasey.Spaced := by decide
  have hback : Zone.antarcticaCasey.SetsBackAtMost repeatLookahead := by decide
  have hleap : ¬ Instant.InLeapSecond ⟨1267700000, 500000000⟩ := by decide
  have hreach : (⟨1267780000, 0⟩ : Instant) ≤ .ofSeconds (earliestStart + longestBackStep) := by
    decide
  obtain ⟨s, hs, hupcoming⟩ := exists_of_bind_eq_some
    (by decide +kernel : (read (Field.yearLimit 2025) .antarcticaCasey "0 0 0 * * ?").toOption.bind
      (fun s => some ((s.upcoming ⟨1267700000, 500000000⟩ 3).filter (· < ⟨1267780000, 0⟩))) =
        some [.ofSeconds 1267707600, .ofSeconds 1267718400])
  obtain ⟨-, times, -, hmem, hlists⟩ := upcoming_preceding_agree hs hspaced hback hleap hreach
  have htake := (hlists 3).1.symm.trans (Option.some.inj hupcoming)
  -- The list is as long as its first three members, which are two.
  have hlength : times.length ≤ 3 := by
    have := congrArg List.length htake
    simp only [List.length_take, List.length_cons, List.length_nil] at this
    omega
  obtain rfl := (List.take_of_length_le hlength).symm.trans htake
  exact ⟨s, hs, hspaced, hback, hleap, hreach, hmem, fun count => (hlists count).2⟩

end Schedule

end CronSchedule
