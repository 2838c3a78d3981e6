import CronSchedule.Instant.Reader
import CronSchedule.Proofs.Calendar.DayNumber
import CronSchedule.Proofs.Text.Decimal
import CronSchedule.Proofs.Zone.Moments
import CronSchedule.Zone.Database

/-!
# Instants read as they are written

A text gives an instant as RFC 3339 has it (`IsRfc3339`) or as a wall clock shows it
(`IsLocalText`), and `read_written` says what is read from either, with white space around
it. One form is never taken for the other: where RFC 3339 has an offset, a local reading
ends (`ofRfc3339?_append`). The parts of a reading, written and read one by one, make it up
again (`ofParts?_parts`), and of the moments that show it the first is meant
(`firstInstant?_eq_some_iff`).
-/

namespace CronSchedule

namespace Instant

open Text

variable {r : Reading} {nanos : Nat} {text fraction offset rest : List Char} {separator : Char}
variable {ahead : Int}

/-! ## How an instant is written -/

/-- A year of four digits. -/
def FourDigitYear (r : Reading) : Prop :=
  0 ≤ r.date.year ∧ r.date.year ≤ 9999

instance (r : Reading) : Decidable (FourDigitYear r) :=
  inferInstanceAs (Decidable (_ ∧ _))

/-- The nanoseconds are past the second of a reading, or in a leap second past the last one
of its minute. -/
def Past (r : Reading) (nanos : Nat) : Prop :=
  nanos < nanosPerSecond ∨ r.second = 59 ∧ nanos < 2 * nanosPerSecond

/-- The date of a reading, `YYYY-MM-DD`. -/
def dateText (r : Reading) : List Char :=
  padded 4 r.date.year.toNat ++ '-' :: padded 2 r.date.month ++ '-' :: padded 2 r.date.day

/-- The time of a reading, `HH:MM:SS`. A leap second is second 60. -/
def clockText (r : Reading) (nanos : Nat) : List Char :=
  padded 2 r.hour ++ ':' :: padded 2 r.minute ++ ':' ::
    padded 2 (r.second + nanos / nanosPerSecond)

/-- **The text writes a local reading**: its date and its time, or the date alone if the time
is midnight. -/
inductive IsLocalText : List Char → Reading → Prop
  /-- A `T` stands between the two. -/
  | withT (r : Reading) : IsLocalText (dateText r ++ 'T' :: clockText r 0) r
  /-- A space stands between the two. -/
  | withSpace (r : Reading) : IsLocalText (dateText r ++ ' ' :: clockText r 0) r
  /-- The date alone. -/
  | dateAlone (r : Reading) : r.secondOfDay = 0 → IsLocalText (dateText r) r

/-- **The text writes a part of a second** in nanoseconds, if need be rounded down. -/
inductive IsFraction : List Char → Nat → Prop
  /-- Nothing is written for a whole second. -/
  | whole : IsFraction [] 0
  /-- A point and any digits. -/
  | digits (digits : List Char) : digits ≠ [] → (∀ c ∈ digits, c.isDigit = true) →
      IsFraction ('.' :: digits)
        (Nat.ofDigitChars 10 digits 0 * nanosPerSecond / 10 ^ digits.length)

/-- **The text writes an offset** of whole minutes, less than a day. -/
inductive IsOffset : List Char → Int → Prop
  /-- The clock is that of UTC. -/
  | utc (z : Char) : z = 'Z' ∨ z = 'z' → IsOffset [z] 0
  /-- The clock is ahead of UTC. -/
  | ahead (hours minutes : Nat) : hours ≤ 23 → minutes ≤ 59 →
      IsOffset ('+' :: padded 2 hours ++ ':' :: padded 2 minutes) (hours * 3600 + minutes * 60)
  /-- The clock is behind UTC. -/
  | behind (hours minutes : Nat) : hours ≤ 23 → minutes ≤ 59 →
      IsOffset ('-' :: padded 2 hours ++ ':' :: padded 2 minutes) (-(hours * 3600 + minutes * 60))

/-- **The text writes an instant in RFC 3339**: as a clock shows it that goes by an offset, and
the offset. -/
inductive IsRfc3339 : List Char → Instant → Prop
  | intro (r : Reading) (nanos : Nat) (separator : Char) (fraction offset : List Char)
      (ahead : Int) : FourDigitYear r → Past r nanos → separator ∈ ['T', 't', ' '] →
      IsFraction fraction (nanos % nanosPerSecond) → IsOffset offset ahead →
      IsRfc3339 (dateText r ++ separator :: clockText r nanos ++ fraction ++ offset)
        ⟨r.seconds - ahead, nanos⟩

/-! ## Its parts -/

theorem Past.second_lt (h : Past r nanos) : r.second + nanos / nanosPerSecond < 10 ^ 2 := by
  have := r.second_lt
  rw [Past, nanosPerSecond] at h
  rw [nanosPerSecond]
  omega

theorem FourDigitYear.toNat (h : FourDigitYear r) :
    r.date.year.toNat < 10 ^ 4 ∧ (r.date.year.toNat : Int) = r.date.year := by
  obtain ⟨hlow, hhigh⟩ := h
  omega

theorem month_lt (r : Reading) : r.date.month < 10 ^ 2 :=
  Nat.lt_of_le_of_lt r.valid_date.2.1 (by decide)

theorem day_lt (r : Reading) : r.date.day < 10 ^ 2 :=
  Nat.lt_of_le_of_lt (Nat.le_trans r.valid_date.2.2.2 (Calendar.monthLength_le _ _)) (by decide)

theorem hour_lt (r : Reading) : r.hour < 10 ^ 2 :=
  Nat.lt_trans r.hour_lt (by decide)

theorem minute_lt (r : Reading) : r.minute < 10 ^ 2 :=
  Nat.lt_trans r.minute_lt (by decide)

/-- **The parts of a reading make it up again.** -/
theorem ofParts?_parts (hyear : FourDigitYear r) (hnanos : Past r nanos) :
    LocalTime.ofParts? r.date r.hour r.minute (r.second + nanos / nanosPerSecond)
      (nanos % nanosPerSecond) = some ⟨r, nanos⟩ := by
  have hsecond := r.second_lt
  have hparts := r.ofParts_parts
  have hknown : LocalTime.isKnownYear r.date.year = true := by
    have := hyear
    simp only [LocalTime.isKnownYear, FourDigitYear, Bool.and_eq_true, decide_eq_true_eq] at *
    omega
  rw [Past, nanosPerSecond] at hnanos
  rw [nanosPerSecond]
  rw [LocalTime.ofParts?, if_pos ⟨hknown, r.valid_date, Nat.le_of_lt_succ r.hour_lt,
    Nat.le_of_lt_succ r.minute_lt, by omega⟩, Reading.dayNumber_date]
  split
  · -- Within the leap second.
    have hlast : r.second = 59 := by omega
    rw [← hlast, hparts, nanosPerSecond]
    congr 2
    omega
  · have hwhole : nanos < 1000000000 := by omega
    rw [Nat.div_eq_of_lt hwhole, Nat.mod_eq_of_lt hwhole, Nat.add_zero, hparts]

/-! ## Reading its parts -/

theorem readYear_padded {n : Nat} (h : n < 10 ^ 4) (rest : List Char) :
    LocalTime.readYear (padded 4 n ++ rest) = some ((n : Int), rest) := by
  rw [LocalTime.readYear, dropBlanks_padded]
  split
  · rename_i heq
    have hsign : '-' ∈ (padded 4 n ++ rest).head? := by rw [heq]; rfl
    exact absurd (isDigit_of_mem_head? hsign) (by decide)
  · rename_i heq
    have hsign : '+' ∈ (padded 4 n ++ rest).head? := by rw [heq]; rfl
    exact absurd (isDigit_of_mem_head? hsign) (by decide)
  · rw [readDigits_padded (by decide) h]
    rfl

theorem readPart_padded {n : Nat} (h : n < 10 ^ 2) (rest : List Char) :
    LocalTime.readPart 2 (padded 2 n ++ rest) = some (n, rest) := by
  rw [LocalTime.readPart, dropBlanks_padded, readDigits_padded (by decide) h]

theorem readDigitsExactly_two {n : Nat} (h : n < 10 ^ 2) (rest : List Char) :
    readDigitsExactly 2 (padded 2 n ++ rest) = some (n, rest) :=
  readDigitsExactly_padded (by decide) h rest

theorem expectChar_cons (c : Char) (rest : List Char) : expectChar c (c :: rest) = some rest :=
  if_pos rfl

/-- Where a part is read, the reader goes on. -/
theorem bind_of_eq_some {α β : Type} {x : Option α} {a : α} (h : x = some a) (f : α → Option β) :
    (x >>= f) = f a := by
  rw [h]
  rfl

/-- The date is read, whatever follows. -/
theorem readDate_dateText (hyear : FourDigitYear r) (rest : List Char) :
    LocalTime.readDate (dateText r ++ rest) = some (r.date, rest) := by
  obtain ⟨hlt, hcast⟩ := hyear.toNat
  simp only [dateText, List.append_assoc, List.cons_append, LocalTime.readDate,
    readYear_padded hlt, expectChar_cons, readPart_padded (month_lt r), readPart_padded (day_lt r),
    hcast, Option.bind_eq_bind, Option.bind_some, Option.pure_def]

/-- And the time at the end of the text. -/
theorem readTime_clockText (hnanos : Past r nanos) (date : Date) (rest : List Char) :
    LocalTime.readTime date (clockText r nanos ++ rest) =
      if rest.isEmpty then
        LocalTime.ofParts? date r.hour r.minute (r.second + nanos / nanosPerSecond) 0
      else none := by
  simp only [clockText, List.append_assoc, List.cons_append, LocalTime.readTime, expectChar_cons,
    readPart_padded (hour_lt r), readPart_padded (minute_lt r), readPart_padded hnanos.second_lt,
    Option.bind_eq_bind, Option.bind_some]

/-- A fraction ends where no digit follows. -/
theorem readFraction_append (h : IsFraction fraction nanos)
    (hrest : ∀ c ∈ rest.head?, c ≠ '.' ∧ c.isDigit = false) :
    readFraction (fraction ++ rest) = some (nanos, rest) := by
  cases h with
  | whole =>
    rw [List.nil_append, readFraction.eq_def]
    split
    · exact absurd rfl (hrest '.' rfl).1
    · rfl
  | digits digits hne hdigits =>
    have htake : (digits ++ rest).takeWhile Char.isDigit = digits := by
      rw [List.takeWhile_append_of_pos hdigits]
      cases rest with
      | nil => exact List.append_nil _
      | cons c later =>
        rw [List.takeWhile_cons_of_neg (by simp [(hrest c rfl).2]), List.append_nil]
    have hempty : digits.isEmpty = false := by simpa using hne
    simp only [List.cons_append, readFraction, htake, hempty, List.drop_left]
    rw [if_neg Bool.false_ne_true]
    exact congrArg (fun nanos => some (nanos, rest)) (ofDigitChars_take hdigits)

/-- Hours and minutes are an offset, ahead of UTC or behind it, if they are of a day and an hour. -/
theorem readOffset_append {hours minutes : Nat} (hhours : hours < 10 ^ 2)
    (hminutes : minutes ≤ 59) :
    readOffset ('+' :: padded 2 hours ++ ':' :: padded 2 minutes) =
        (if hours ≤ 23 then some (hours * 3600 + minutes * 60 : Int) else none) ∧
      readOffset ('-' :: padded 2 hours ++ ':' :: padded 2 minutes) =
        (if hours ≤ 23 then some (-(hours * 3600 + minutes * 60 : Int)) else none) := by
  have hhour := readDigitsExactly_two hhours (':' :: padded 2 minutes)
  have hminute := readDigitsExactly_two (Nat.lt_of_le_of_lt hminutes (by decide)) []
  rw [List.append_nil] at hminute
  constructor
  · simp only [List.cons_append, readOffset, hhour, hminute, expectChar_cons, Option.bind_eq_bind,
      Option.bind_some, hminutes, List.isEmpty_nil, and_true]
  · simp only [List.cons_append, readOffset, hhour, hminute, expectChar_cons, Option.bind_eq_bind,
      Option.bind_some, hminutes, List.isEmpty_nil, and_true]
    split <;> rfl

theorem readOffset_of_isOffset (h : IsOffset offset ahead) : readOffset offset = some ahead := by
  cases h with
  | utc z hz => rcases hz with rfl | rfl <;> rfl
  | ahead hours minutes hhours hminutes =>
    rw [(readOffset_append (Nat.lt_of_le_of_lt hhours (by decide)) hminutes).1, if_pos hhours]
  | behind hours minutes hhours hminutes =>
    rw [(readOffset_append (Nat.lt_of_le_of_lt hhours (by decide)) hminutes).2, if_pos hhours]

/-- **In RFC 3339, what stands after the time must be an offset.** -/
theorem ofRfc3339?_append (hyear : FourDigitYear r) (hnanos : Past r nanos)
    (hseparator : separator ∈ ['T', 't', ' '])
    (hfraction : IsFraction fraction (nanos % nanosPerSecond)) (rest : List Char)
    (hrest : ∀ c ∈ rest.head?, c ≠ '.' ∧ c.isDigit = false) :
    ofRfc3339? (dateText r ++ separator :: clockText r nanos ++ fraction ++ rest) =
      (readOffset rest).map fun ahead => ⟨r.seconds - ahead, nanos⟩ := by
  obtain ⟨hlt, hcast⟩ := hyear.toNat
  have hparts : LocalTime.ofParts? ⟨r.date.year, r.date.month, r.date.day⟩ r.hour r.minute
      (r.second + nanos / nanosPerSecond) (nanos % nanosPerSecond) = some ⟨r, nanos⟩ :=
    ofParts?_parts hyear hnanos
  have hseparator : separator = 'T' ∨ separator = 't' ∨ separator = ' ' := by
    simpa using hseparator
  -- The parts are read in order, and each time the reader goes on before the rest is looked at.
  simp only [dateText, clockText, List.append_assoc, List.cons_append, ofRfc3339?,
    ↓bind_of_eq_some (readDigitsExactly_padded (show 0 < 4 by decide) hlt _),
    ↓bind_of_eq_some (expectChar_cons _ _),
    ↓bind_of_eq_some (readDigitsExactly_two (month_lt r) _),
    ↓bind_of_eq_some (readDigitsExactly_two (day_lt r) _), hcast]
  rcases hseparator with rfl | rfl | rfl <;>
    simp only [↓bind_of_eq_some rfl, ↓bind_of_eq_some (expectChar_cons _ _),
      ↓bind_of_eq_some (readDigitsExactly_two (hour_lt r) _),
      ↓bind_of_eq_some (readDigitsExactly_two (minute_lt r) _),
      ↓bind_of_eq_some (readDigitsExactly_two hnanos.second_lt _),
      ↓bind_of_eq_some (readFraction_append hfraction hrest), ↓bind_of_eq_some hparts] <;>
    cases readOffset rest <;> rfl

/-! ## A local reading -/

theorem isTrimmed_dateText (r : Reading) : IsTrimmed (dateText r) :=
  (isTrimmed_padded.append_cons isTrimmed_padded _).append_cons isTrimmed_padded _

theorem isTrimmed_clockText (r : Reading) (nanos : Nat) : IsTrimmed (clockText r nanos) :=
  (isTrimmed_padded.append_cons isTrimmed_padded _).append_cons isTrimmed_padded _

theorem past_zero (r : Reading) : Past r 0 :=
  .inl (by decide)

namespace IsLocalText

theorem isTrimmed (h : IsLocalText text r) : IsTrimmed text := by
  cases h with
  | withT => exact (isTrimmed_dateText r).append_cons (isTrimmed_clockText r 0) _
  | withSpace => exact (isTrimmed_dateText r).append_cons (isTrimmed_clockText r 0) _
  | dateAlone => exact isTrimmed_dateText r

/-- No offset is written, so it is not RFC 3339. -/
theorem ofRfc3339?_eq_none (hyear : FourDigitYear r) (h : IsLocalText text r) :
    ofRfc3339? text = none := by
  have hnone : ∀ separator ∈ ['T', 't', ' '],
      ofRfc3339? (dateText r ++ separator :: clockText r 0) = none := by
    intro separator hseparator
    have hoffset := ofRfc3339?_append hyear (past_zero r) hseparator .whole [] nofun
    rwa [List.append_nil, List.append_nil] at hoffset
  cases h with
  | withT => exact hnone 'T' (by simp)
  | withSpace => exact hnone ' ' (by simp)
  | dateAlone =>
    obtain ⟨hlt, -⟩ := hyear.toNat
    have hday := readDigitsExactly_two (day_lt r) []
    rw [List.append_nil] at hday
    simp only [dateText, List.append_assoc, List.cons_append, ofRfc3339?,
      ↓bind_of_eq_some (readDigitsExactly_padded (show 0 < 4 by decide) hlt _),
      ↓bind_of_eq_some (expectChar_cons _ _),
      ↓bind_of_eq_some (readDigitsExactly_two (month_lt r) _),
      ↓bind_of_eq_some hday]
    rfl

/-- **It is read as the reading that it writes.** -/
theorem read?_eq_some (hyear : FourDigitYear r) (h : IsLocalText text r) :
    LocalTime.read? text = some ⟨r, 0⟩ := by
  have hparts : LocalTime.ofParts? r.date r.hour r.minute (r.second + 0 / nanosPerSecond) 0 =
      some ⟨r, 0⟩ := ofParts?_parts hyear (past_zero r)
  have htime := readTime_clockText (past_zero r) r.date []
  rw [List.append_nil, List.isEmpty_nil, if_pos rfl, hparts] at htime
  have hspace : LocalTime.readTime r.date (' ' :: clockText r 0) =
      LocalTime.readTime r.date (clockText r 0) := by
    rw [LocalTime.readTime, LocalTime.readTime, LocalTime.readPart, LocalTime.readPart, dropBlanks,
      List.dropWhile_cons_of_pos (by decide), dropBlanks]
  cases h with
  | withT =>
    simp only [LocalTime.read?, readDate_dateText hyear, Option.bind_eq_bind, Option.bind_some]
    exact htime
  | withSpace =>
    simp only [LocalTime.read?, readDate_dateText hyear, Option.bind_eq_bind, Option.bind_some]
    exact hspace.trans htime
  | dateAlone _ hmidnight =>
    have hdate := readDate_dateText hyear []
    rw [List.append_nil] at hdate
    have hzero : r.hour = 0 ∧ r.minute = 0 ∧ r.second = 0 := by
      rw [Reading.hour, Reading.minute, Reading.second, hmidnight]
      decide
    rw [hzero.1, hzero.2.1, hzero.2.2] at hparts
    rw [LocalTime.read?, hdate]
    exact hparts

end IsLocalText

/-- Nothing may stand after a local reading. -/
theorem read?_append_eq_none (hyear : FourDigitYear r) (hnanos : Past r nanos) (hrest : rest ≠ []) :
    LocalTime.read? (dateText r ++ 'T' :: clockText r nanos ++ rest) = none := by
  have htime := readTime_clockText hnanos r.date rest
  rw [if_neg (by simpa using hrest)] at htime
  simp only [List.append_assoc, List.cons_append, LocalTime.read?, readDate_dateText hyear,
    Option.bind_eq_bind, Option.bind_some]
  exact htime

/-- **Of the moments that show a reading, the first is meant.** -/
theorem firstInstant?_eq_some_iff {zone : Zone} (hordered : zone.Ordered) (t : Instant) :
    LocalTime.firstInstant? zone ⟨r, 0⟩ = some t ↔
      zone.readingAt t.seconds = r ∧ ∀ u : Instant, zone.readingAt u.seconds = r → t ≤ u := by
  have hmem : ∀ u, u ∈ zone.momentsOf r ↔ zone.readingAt u = r :=
    fun u => Zone.mem_momentsOf hordered
  have hsorted : (zone.momentsOf r).Pairwise (· < ·) := Zone.pairwise_momentsOf hordered
  rw [LocalTime.firstInstant?]
  cases hmoments : zone.momentsOf r with
  | nil =>
    rw [hmoments] at hmem
    exact iff_of_false nofun fun h => List.not_mem_nil ((hmem _).2 h.1)
  | cons first later =>
    rw [hmoments] at hmem hsorted
    have hfirst : zone.readingAt first = r := (hmem first).1 List.mem_cons_self
    have hle : ∀ u : Instant, zone.readingAt u.seconds = r → first ≤ u.seconds := by
      intro u hu
      rcases List.mem_cons.1 ((hmem _).2 hu) with heq | hlater
      · exact Int.le_of_eq heq.symm
      · exact Int.le_of_lt (List.rel_of_pairwise_cons hsorted hlater)
    constructor
    · rintro ⟨⟩
      refine ⟨hfirst, fun u hu => ?_⟩
      have := hle u hu
      simp only [le_def]
      omega
    · rintro ⟨ht, hleast⟩
      have hlow := hle t ht
      have hhigh := hleast ⟨first, 0⟩ hfirst
      simp only [le_def] at hhigh
      refine congrArg some (Instant.ext ?_ ?_)
      · show first = t.seconds
        omega
      · show 0 = t.nanos
        omega

theorem firstInstant?_eq_none_iff {zone : Zone} (hordered : zone.Ordered) :
    LocalTime.firstInstant? zone ⟨r, 0⟩ = none ↔ ∀ u, zone.readingAt u ≠ r := by
  rw [LocalTime.firstInstant?, Option.map_eq_none_iff, List.head?_eq_none_iff,
    List.eq_nil_iff_forall_not_mem]
  simp only [Zone.mem_momentsOf hordered, ne_eq]

/-! ## RFC 3339 -/

theorem isTrimmed_hoursAndMinutes {sign : Char} (h : isBlank sign = false) (hours minutes : Nat) :
    IsTrimmed (sign :: padded 2 hours ++ ':' :: padded 2 minutes) := by
  refine IsTrimmed.append_cons ?_ isTrimmed_padded _
  refine isTrimmed_of_forall (List.cons_ne_nil _ _) fun c hc => ?_
  rcases List.mem_cons.1 hc with rfl | hc
  · exact h
  · exact isBlank_eq_false_of_isDigit (isDigit_of_mem_padded hc)

namespace IsOffset

theorem isTrimmed (h : IsOffset offset ahead) : IsTrimmed offset := by
  cases h with
  | utc z hz =>
    refine isTrimmed_of_forall (List.cons_ne_nil _ _) (List.forall_mem_singleton.2 ?_)
    rcases hz with rfl | rfl <;> decide
  | ahead => exact isTrimmed_hoursAndMinutes (by decide) _ _
  | behind => exact isTrimmed_hoursAndMinutes (by decide) _ _

/-- An offset does not go on with the fraction before it. -/
theorem head (h : IsOffset offset ahead) : ∀ c ∈ offset.head?, c ≠ '.' ∧ c.isDigit = false := by
  cases h with
  | utc z hz => rcases hz with rfl | rfl <;> simp
  | ahead => simp
  | behind => simp

end IsOffset

/-- **It is read as the instant that it writes.** -/
theorem IsRfc3339.ofRfc3339?_eq_some {t : Instant} (h : IsRfc3339 text t) :
    ofRfc3339? text = some t := by
  obtain ⟨r, nanos, separator, fraction, offset, ahead, hyear, hnanos, hseparator, hfraction,
    hoffset⟩ := h
  rw [ofRfc3339?_append hyear hnanos hseparator hfraction offset hoffset.head,
    readOffset_of_isOffset hoffset, Option.map_some]

theorem IsRfc3339.isTrimmed {t : Instant} (h : IsRfc3339 text t) : IsTrimmed text := by
  obtain ⟨r, nanos, separator, fraction, offset, ahead, -, -, -, -, hoffset⟩ := h
  exact ((isTrimmed_dateText r).append_cons (isTrimmed_clockText r nanos) separator).append
    hoffset.isTrimmed fraction

/-! ## The whole rule -/

/-- **An instant is read as it is written**, with white space around it. As a wall clock shows
it, it is the earliest instant at which the clock of the zone does, and there is an error
exactly when the clock never does. In RFC 3339 it is the instant that is written, whatever
the zone. -/
theorem read_written {zone : Zone} {before after : List Char} (hordered : zone.Ordered)
    (hbefore : ∀ c ∈ before, isBlank c = true) (hafter : ∀ c ∈ after, isBlank c = true) :
    (∀ text r, IsLocalText text r → FourDigitYear r →
      (∀ t, read zone (String.ofList (before ++ text ++ after)) = .ok t ↔
        zone.readingAt t.seconds = r ∧ ∀ u : Instant, zone.readingAt u.seconds = r → t ≤ u) ∧
      ∀ e, read zone (String.ofList (before ++ text ++ after)) = .error e ↔
        e = .skipped (String.ofList text) zone.name ∧ ∀ u, zone.readingAt u ≠ r) ∧
    ∀ text t, IsRfc3339 text t →
      read zone (String.ofList (before ++ text ++ after)) = .ok t := by
  constructor
  · intro text r htext hyear
    have hsome := firstInstant?_eq_some_iff (r := r) hordered
    have hnone := firstInstant?_eq_none_iff (r := r) hordered
    simp only [read, String.toList_ofList, trim_append _ _ hbefore hafter htext.isTrimmed,
      htext.ofRfc3339?_eq_none hyear, htext.read?_eq_some hyear]
    cases hfirst : LocalTime.firstInstant? zone ⟨r, 0⟩ with
    | some first =>
      rw [hfirst] at hsome hnone
      refine ⟨fun t => ?_, fun e => iff_of_false nofun fun h => absurd (hnone.2 h.2) nofun⟩
      rw [← hsome, Except.ok.injEq, Option.some.injEq]
    | none =>
      rw [hfirst] at hsome hnone
      refine ⟨fun t => iff_of_false nofun fun h => absurd ((hsome t).2 h) nofun, fun e => ?_⟩
      rw [and_iff_left (hnone.1 rfl), Except.error.injEq]
      exact eq_comm
  · intro text t htext
    simp only [read, String.toList_ofList, trim_append _ _ hbefore hafter htext.isTrimmed,
      htext.ofRfc3339?_eq_some]

/-- At Casey the clock went back by three hours on 2010-03-05 at two, so that the midnight of
that date came twice, and half past three did not come on 2009-10-18. -/
theorem read_written_midnightAgain :
    Zone.antarcticaCasey.Ordered ∧ (∀ c ∈ [' '], isBlank c = true) ∧
      (∀ c ∈ ['\n'], isBlank c = true) ∧
      IsLocalText "2010-03-05".toList ⟨1267747200⟩ ∧ FourDigitYear ⟨1267747200⟩ ∧
      (∀ u : Instant, Zone.antarcticaCasey.readingAt u.seconds = ⟨1267747200⟩ →
        .ofSeconds 1267707600 ≤ u) ∧
      IsLocalText "2009-10-18 03:30:00".toList ⟨1255836600⟩ ∧ FourDigitYear ⟨1255836600⟩ ∧
      (∀ u, Zone.antarcticaCasey.readingAt u ≠ ⟨1255836600⟩) ∧
      IsRfc3339 "2010-03-05T00:00:00.5+08:00".toList ⟨1267718400, 500000000⟩ ∧
      read .antarcticaCasey (String.ofList
        ([' '] ++ "2010-03-05T00:00:00.5+08:00".toList ++ ['\n'])) =
          .ok ⟨1267718400, 500000000⟩ := by
  have hordered : Zone.antarcticaCasey.Ordered := by decide
  have hbefore : ∀ c ∈ [' '], isBlank c = true := List.forall_mem_singleton.2 (by decide)
  have hafter : ∀ c ∈ ['\n'], isBlank c = true := List.forall_mem_singleton.2 (by decide)
  have htwice : IsLocalText "2010-03-05".toList ⟨1267747200⟩ := by
    rw [show "2010-03-05".toList = dateText ⟨1267747200⟩ by decide +kernel]
    exact .dateAlone _ (by decide)
  have hskipped : IsLocalText "2009-10-18 03:30:00".toList ⟨1255836600⟩ := by
    rw [show "2009-10-18 03:30:00".toList =
      dateText ⟨1255836600⟩ ++ ' ' :: clockText ⟨1255836600⟩ 0 by decide +kernel]
    exact .withSpace _
  have hwritten : IsRfc3339 "2010-03-05T00:00:00.5+08:00".toList ⟨1267718400, 500000000⟩ := by
    rw [show "2010-03-05T00:00:00.5+08:00".toList = dateText ⟨1267747200⟩ ++
      'T' :: clockText ⟨1267747200⟩ 500000000 ++ ['.', '5'] ++
      ('+' :: padded 2 8 ++ ':' :: padded 2 0) by decide +kernel]
    exact .intro ⟨1267747200⟩ 500000000 'T' ['.', '5'] _ _ (by decide +kernel) (.inl (by decide))
      (by decide) (.digits ['5'] (by decide) (List.forall_mem_singleton.2 rfl))
      (.ahead 8 0 (by decide) (by decide))
  have hyear : FourDigitYear ⟨1267747200⟩ ∧ FourDigitYear ⟨1255836600⟩ := by decide +kernel
  obtain ⟨hlocal, hrfc⟩ := read_written hordered hbefore hafter
  have hfirst := ((hlocal _ _ htwice hyear.1).1 (.ofSeconds 1267707600)).1 (by decide +kernel)
  have hnever := ((hlocal _ _ hskipped hyear.2).2
    (.skipped "2009-10-18 03:30:00" "Antarctica/Casey")).1 (by decide +kernel)
  exact ⟨hordered, hbefore, hafter, htwice, hyear.1, hfirst.2, hskipped, hyear.2, hnever.2,
    hwritten, hrfc _ _ hwritten⟩

end Instant

end CronSchedule
