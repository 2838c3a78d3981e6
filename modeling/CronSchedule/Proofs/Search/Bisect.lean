import CronSchedule.Search.Bisect
import Mathlib.Algebra.Group.Nat.Defs

/-!
# Bisection finds the second at which a test begins to hold

A `Bracket` is what bisection starts from and keeps: a span at whose early end
the test fails and at whose late end it holds. It ends with a bracket of a
single second (`bisect_spec`), whatever the test does elsewhere. A test that once
and for all begins to hold does so at the second that is found (`bisect_of_beginsAt`).
That is so too where a span of three hours begins in a leap second, although a span
across midnight is then taken for a second shorter than it is (`bisect_of_leap`).
-/

namespace CronSchedule

namespace Instant

variable {test : Instant → Bool} {low high : Instant}

/-- **A span for bisection**: its ends are equally far into their seconds, the
test fails at the early one and holds at the late one. -/
structure Bracket (test : Instant → Bool) (low high : Instant) : Prop where
  lt : low.seconds < high.seconds
  nanos_eq : low.nanos = high.nanos
  not_leap : ¬ low.InLeapSecond
  fails : test low = false
  holds : test high = true

theorem wholeSecondsSince_of_nanos_eq (hnanos : low.nanos = high.nanos)
    (hleap : ¬ low.InLeapSecond) : high.wholeSecondsSince low = high.seconds - low.seconds := by
  have hhigh : ¬ high.InLeapSecond := by rwa [InLeapSecond, ← hnanos]
  simp [wholeSecondsSince, hleap, hhigh, hnanos]

theorem addSeconds_seconds {t : Instant} (h : ¬ t.InLeapSecond) (k : Int) :
    (t.addSeconds k).seconds = t.seconds + k := by
  rw [addSeconds_of_not_leap h]

theorem addSeconds_nanos {t : Instant} (h : ¬ t.InLeapSecond) (k : Int) :
    (t.addSeconds k).nanos = t.nanos := by
  rw [addSeconds_of_not_leap h]

namespace Bracket

variable {k : Int}

/-- The test holds in the middle: the early part is a bracket. -/
theorem early (h : Bracket test low high) (htest : test (low.addSeconds k) = true)
    (hlt : low.seconds < (low.addSeconds k).seconds) : Bracket test low (low.addSeconds k) :=
  ⟨hlt, (addSeconds_nanos h.not_leap k).symm, h.not_leap, h.fails, htest⟩

/-- The test fails in the middle: the late part is a bracket. -/
theorem late (h : Bracket test low high) (htest : test (low.addSeconds k) = false)
    (hlt : (low.addSeconds k).seconds < high.seconds) : Bracket test (low.addSeconds k) high := by
  have hnanos := addSeconds_nanos h.not_leap k
  refine ⟨hlt, hnanos.trans h.nanos_eq, ?_, htest, h.holds⟩
  rw [InLeapSecond, hnanos]
  exact h.not_leap

/-- The midpoint of more than a second lies inside. -/
theorem gap_le_one (h : Bracket test low high)
    (hend : ¬ (1 < high.wholeSecondsSince low ∧
      low.seconds < (low.addSeconds (high.wholeSecondsSince low / 2)).seconds ∧
      (low.addSeconds (high.wholeSecondsSince low / 2)).seconds < high.seconds)) :
    high.wholeSecondsSince low ≤ 1 := by
  rw [addSeconds_seconds h.not_leap, wholeSecondsSince_of_nanos_eq h.nanos_eq h.not_leap] at *
  omega

end Bracket

/-- **Bisection narrows a bracket to a second.** -/
theorem bisect_spec (h : Bracket test low high) :
    Bracket test (bisect test low high).1 (bisect test low high).2 ∧
      low.seconds ≤ (bisect test low high).1.seconds ∧
      (bisect test low high).2.seconds = (bisect test low high).1.seconds + 1 ∧
      (bisect test low high).2.seconds ≤ high.seconds := by
  fun_induction bisect test low high with
  | case1 low high gap middle hinside htest ih =>
    obtain ⟨hbracket, hlow, hone, hhigh⟩ := ih (h.early htest hinside.2.1)
    exact ⟨hbracket, hlow, hone, by omega⟩
  | case2 low high gap middle hinside htest ih =>
    obtain ⟨hbracket, hlow, hone, hhigh⟩ := ih (h.late (Bool.eq_false_iff.2 htest) hinside.2.2)
    exact ⟨hbracket, by omega, hone, hhigh⟩
  | case3 low high gap middle hend =>
    have hgap := h.gap_le_one hend
    rw [wholeSecondsSince_of_nanos_eq h.nanos_eq h.not_leap] at hgap
    have hone : high.seconds = low.seconds + 1 := by
      have := h.lt
      omega
    exact ⟨h, Int.le_refl _, hone, Int.le_refl _⟩

/-! ## Whole seconds -/

theorem not_leap_truncate (t : Instant) : ¬ t.truncate.InLeapSecond :=
  fun h : nanosPerSecond ≤ 0 => absurd h (by decide)

theorem nanos_truncate_lt (t : Instant) : t.truncate.nanos < 2 * nanosPerSecond :=
  (by decide : 0 < 2 * nanosPerSecond)

theorem addSeconds_truncate (hleap : ¬ low.InLeapSecond) (k : Int) :
    low.truncate.addSeconds k = (low.addSeconds k).truncate := by
  rw [addSeconds_of_not_leap (not_leap_truncate low), addSeconds_of_not_leap hleap]
  rfl

theorem wholeSecondsSince_truncate (hnanos : low.nanos = high.nanos)
    (hleap : ¬ low.InLeapSecond) :
    high.truncate.wholeSecondsSince low.truncate = high.wholeSecondsSince low := by
  rw [wholeSecondsSince_of_nanos_eq hnanos hleap, truncate, truncate, wholeSecondsSince_ofSeconds]

/-- **Between instants that are equally far into their seconds, a test of the seconds is
bisected as between the seconds.** -/
theorem bisect_truncate (holds : Int → Bool) (hnanos : low.nanos = high.nanos)
    (hleap : ¬ low.InLeapSecond) :
    bisect (fun t => holds t.seconds) low.truncate high.truncate =
      ((bisect (fun t => holds t.seconds) low high).1.truncate,
        (bisect (fun t => holds t.seconds) low high).2.truncate) := by
  fun_induction bisect (fun t => holds t.seconds) low high with
  | case1 low high gap middle hinside htest ih =>
    have hsame : low.nanos = middle.nanos := (addSeconds_nanos hleap _).symm
    rw [← ih hsame hleap, bisect, wholeSecondsSince_truncate hnanos hleap,
      addSeconds_truncate hleap]
    exact (if_pos hinside).trans (if_pos htest)
  | case2 low high gap middle hinside htest ih =>
    have hsame : middle.nanos = low.nanos := addSeconds_nanos hleap _
    rw [← ih (hsame.trans hnanos) (by rwa [InLeapSecond, hsame]), bisect,
      wholeSecondsSince_truncate hnanos hleap, addSeconds_truncate hleap]
    exact (if_pos hinside).trans (if_neg htest)
  | case3 low high gap middle hend =>
    rw [bisect, wholeSecondsSince_truncate hnanos hleap, addSeconds_truncate hleap]
    exact if_neg hend

/-! ## A test that begins to hold -/

/-- **The test begins to hold at the second `set`** of a span, and holds from there on. -/
structure BeginsAt (holds : Int → Bool) (set low high : Int) : Prop where
  lt : low < set
  le : set ≤ high
  iff : ∀ x, low ≤ x → x ≤ high → (holds x = true ↔ set ≤ x)

namespace BeginsAt

variable {holds : Int → Bool} {set low middle high : Int}

/-- The test holds in the middle: it begins to hold in the early part. -/
theorem early (h : BeginsAt holds set low high) (hlow : low ≤ middle) (hhigh : middle ≤ high)
    (htest : holds middle = true) : BeginsAt holds set low middle :=
  ⟨h.lt, (h.iff middle hlow hhigh).1 htest,
    fun x hx hxm => h.iff x hx (Int.le_trans hxm hhigh)⟩

/-- The test fails in the middle: it begins to hold in the late part. -/
theorem late (h : BeginsAt holds set low high) (hlow : low ≤ middle) (hhigh : middle ≤ high)
    (htest : holds middle = false) : BeginsAt holds set middle high := by
  refine ⟨?_, h.le, fun x hmx hx => h.iff x (Int.le_trans hlow hmx) hx⟩
  rw [← Int.not_le, ← h.iff middle hlow hhigh, htest]
  exact Bool.false_ne_true

end BeginsAt

section

variable {holds : Int → Bool} {set : Int}

/-- **Bisection finds the second at which the test begins to hold.** -/
theorem bisect_of_beginsAt (h : BeginsAt holds set low.seconds high.seconds)
    (hnanos : low.nanos = high.nanos) (hleap : ¬ low.InLeapSecond) :
    (bisect (fun t => holds t.seconds) low high).2.seconds = set := by
  have hlt := Int.lt_of_lt_of_le h.lt h.le
  have hfails : holds low.seconds = false := by
    rw [← Bool.not_eq_true, h.iff _ (Int.le_refl _) (Int.le_of_lt hlt)]
    exact Int.not_le.2 h.lt
  have hholds : holds high.seconds = true := (h.iff _ (Int.le_of_lt hlt) (Int.le_refl _)).2 h.le
  have hbracket : Bracket (fun t => holds t.seconds) low high :=
    ⟨hlt, hnanos, hleap, hfails, hholds⟩
  obtain ⟨hsecond, hlow, hone, hhigh⟩ := bisect_spec hbracket
  generalize bisect (fun t => holds t.seconds) low high = found at *
  have hafter := (h.iff _ (by omega) hhigh).1 hsecond.holds
  have hbefore : ¬ set ≤ found.1.seconds := by
    rw [← h.iff found.1.seconds hlow (by omega), Bool.not_eq_true]
    exact hsecond.fails
  omega

/-! ## A span that begins in a leap second -/

/-- From a leap second on the distance is that of the seconds, or one less across midnight. -/
theorem wholeSecondsSince_of_leap (hleap : low.InLeapSecond)
    (hnanos : low.nanos = high.nanos + nanosPerSecond) (hhigh : ¬ high.InLeapSecond) :
    high.wholeSecondsSince low = high.seconds - low.seconds -
      (if low.seconds % 86400 < high.seconds % 86400 then 0 else 1) := by
  have hdrop : (high.nanos : Int) - low.nanos = -1000000000 := by
    rw [hnanos, nanosPerSecond]
    omega
  have hwhole : ¬ (0 : Int) < -1000000000 % 1000000000 := by decide
  simp only [wholeSecondsSince, hleap, hhigh, hdrop, hwhole, and_true, and_false, if_false]
  split <;> omega

/-- Forwards from a leap second the nanoseconds are those of the second after it. -/
theorem addSeconds_of_leap (hleap : low.InLeapSecond)
    (hnanos : low.nanos = high.nanos + nanosPerSecond) {k : Int} (hk : 0 < k) :
    low.addSeconds k = ⟨low.seconds + k, high.nanos⟩ := by
  rw [addSeconds, if_pos hleap, if_pos hk, hnanos, Nat.add_sub_cancel]

/-- Halving three hours and a second, no three seconds are left over. -/
theorem halved_ne_three (halvings : Nat) : 10801 / 2 ^ halvings ≠ 3 := by
  -- Eleven halvings are too few for that, and twelve are too many.
  rcases Nat.lt_or_ge 11 halvings with hmany | hfew
  · have hle : 10801 / 2 ^ halvings ≤ 10801 / 2 ^ 12 :=
      Nat.div_le_div_left (Nat.pow_le_pow_right (by decide) hmany) (by decide)
    omega
  · have hle : 10801 / 2 ^ 11 ≤ 10801 / 2 ^ halvings :=
      Nat.div_le_div_left (Nat.pow_le_pow_right (by decide) hfew) (Nat.pow_pos (by decide))
    omega

/-- **Bisection finds that second from within a leap second as well.** Across midnight the
span is taken for a second less; what is left of three hours when it is halved so is never
the two seconds that would be taken for one. -/
theorem bisect_of_leap (hleap : low.InLeapSecond) (hnanos : low.nanos = high.nanos + nanosPerSecond)
    (hhigh : ¬ high.InLeapSecond) (hday : high.seconds < low.seconds + 86400)
    (h : BeginsAt holds set low.seconds high.seconds)
    (hhalved : low.seconds % 86400 < high.seconds % 86400 ∨
      ∃ halvings : Nat, high.seconds - low.seconds + 1 = (10801 / 2 ^ halvings : Nat)) :
    (bisect (fun t => holds t.seconds) low high).2.seconds = set := by
  -- The induction is on the halvings; the early end stays in the leap second until the late
  -- part is taken.
  fun_induction bisect (fun t => holds t.seconds) low high with
  | case1 low high gap middle hinside htest ih =>
    have hgap : gap = _ := wholeSecondsSince_of_leap hleap hnanos hhigh
    have hmiddle : middle = ⟨low.seconds + gap / 2, high.nanos⟩ :=
      addSeconds_of_leap hleap hnanos (by omega)
    have hseconds : middle.seconds = low.seconds + gap / 2 := by rw [hmiddle]
    have hsame : middle.nanos = high.nanos := by rw [hmiddle]
    refine ih hleap (by rw [hsame]; exact hnanos) (by rwa [InLeapSecond, hsame]) (by omega)
      (h.early (by omega) (by omega) htest) ?_
    by_cases hsameDay : low.seconds % 86400 < high.seconds % 86400
    · exact .inl (by omega)
    · obtain ⟨halvings, hhalved⟩ := hhalved.resolve_left hsameDay
      refine .inr ⟨halvings + 1, ?_⟩
      rw [if_neg hsameDay] at hgap
      rw [Nat.pow_succ, ← Nat.div_div_eq_div_mul]
      omega
  | case2 low high gap middle hinside htest ih =>
    have hmiddle : middle = ⟨low.seconds + gap / 2, high.nanos⟩ :=
      addSeconds_of_leap hleap hnanos (by omega)
    have hsame : middle.nanos = high.nanos := by rw [hmiddle]
    exact bisect_of_beginsAt (h.late (by omega) (by omega) (Bool.eq_false_iff.2 htest)) hsame
      (by rwa [InLeapSecond, hsame])
  | case3 low high gap middle hend =>
    have hgap : gap = _ := wholeSecondsSince_of_leap hleap hnanos hhigh
    have hshort : gap ≤ 1 := by
      refine Int.not_lt.1 fun hlong => hend ?_
      have hmiddle : middle = ⟨low.seconds + gap / 2, high.nanos⟩ :=
        addSeconds_of_leap hleap hnanos (by omega)
      have hseconds : middle.seconds = low.seconds + gap / 2 := by rw [hmiddle]
      omega
    have hone : high.seconds ≤ low.seconds + 1 := by
      rcases hhalved with hsameDay | ⟨halvings, hhalved⟩
      · rw [if_pos hsameDay] at hgap
        omega
      · have hthree := halved_ne_three halvings
        omega
    show high.seconds = set
    have hlt := h.lt
    have hle := h.le
    omega

end

/-! ## Seconds added to any instant -/

section

variable {t after : Instant} {holds : Int → Bool} {set : Int}

/-- What is carried into the second when `k` is added: the leap second, if it is left
backwards. -/
def carry (t : Instant) (k : Int) : Int :=
  if t.InLeapSecond ∧ k < 0 then 1 else 0

theorem carry_of_not_leap (h : ¬ t.InLeapSecond) (k : Int) : t.carry k = 0 :=
  if_neg fun hk => h hk.1

theorem carry_cases (t : Instant) (k : Int) :
    t.carry k = 0 ∨ t.carry k = 1 ∧ t.InLeapSecond ∧ k < 0 := by
  rw [carry]
  split
  · rename_i h
    exact .inr ⟨rfl, h⟩
  · exact .inl rfl

theorem carry_nonneg (t : Instant) (k : Int) : 0 ≤ t.carry k := by
  have := t.carry_cases k
  omega

/-- Carried or not, what is more leads further. -/
theorem add_carry_le_add_carry (t : Instant) {k l : Int} (h : k ≤ l) :
    k + t.carry k ≤ l + t.carry l := by
  rcases Int.lt_or_eq_of_le h with hlt | rfl
  · have := t.carry_cases k
    have := t.carry_nonneg l
    omega
  · exact Int.le_refl _

theorem addSeconds_seconds_eq (t : Instant) (k : Int) :
    (t.addSeconds k).seconds = t.seconds + k + t.carry k := by
  rw [addSeconds, carry]
  split
  · rename_i hleap
    rcases Int.lt_trichotomy k 0 with hk | rfl | hk
    · rw [if_neg (by omega), if_pos hk, if_pos ⟨hleap, hk⟩]
      exact Int.add_right_comm ..
    · simp
    · rw [if_pos hk, if_neg fun h => by omega, Int.add_zero]
  · rename_i hleap
    rw [if_neg fun h => hleap h.1, Int.add_zero]

/-- **Within three hours from any instant on**, bisection finds the second at which a test
begins to hold. -/
theorem bisect_of_beginsAt_ahead (hnanos : after.nanos < 2 * nanosPerSecond)
    (h : BeginsAt holds set after.seconds (after.seconds + 10800)) :
    (bisect (fun t => holds t.seconds) after (after.addSeconds 10800)).2.seconds = set := by
  by_cases hleap : after.InLeapSecond
  · have hahead : after.addSeconds 10800 =
        ⟨after.seconds + 10800, after.nanos - nanosPerSecond⟩ := by
      rw [addSeconds, if_pos hleap, if_pos (by decide)]
    have hnext : ¬ (after.addSeconds 10800).InLeapSecond := by
      rw [hahead, InLeapSecond, Nat.not_le]
      exact Nat.sub_lt_right_of_lt_add hleap (by omega)
    rw [InLeapSecond] at hleap
    refine bisect_of_leap hleap ?_ hnext ?_ (by rwa [hahead]) (.inr ⟨0, ?_⟩)
    · rw [hahead]
      exact (Nat.sub_add_cancel hleap).symm
    · rw [hahead]
      exact Int.add_lt_add_left (by decide) _
    · rw [hahead]
      simp only [Nat.pow_zero, Nat.div_one]
      omega
  · refine bisect_of_beginsAt ?_ (addSeconds_nanos hleap _).symm hleap
    rwa [addSeconds_seconds hleap]

end

end Instant

end CronSchedule
