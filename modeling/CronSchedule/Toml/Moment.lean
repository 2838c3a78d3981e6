import CronSchedule.Calendar.Date
import CronSchedule.Text.Decimal

/-!
# Moments of TOML documents

A document may give a date, a time of day, or both, and with them how far the clock
is ahead of UTC. A `Moment` is read from a word of a document (`Moment.ofWord?`) or,
by somewhat wider rules, from a whole text (`Moment.ofText?`), and has one written
form (`Moment.text`).
-/

namespace CronSchedule

namespace Toml

open Text (padded expectChar readDigitsExactly)

/-- A time of day, which may be in a leap second. -/
structure TimeOfDay where
  hour : Nat
  minute : Nat
  second : Nat
  nanos : Nat
deriving DecidableEq, Repr

/-- How far a clock is ahead of UTC. -/
inductive ClockOffset
  /-- It shows UTC. -/
  | utc
  /-- It is ahead by some minutes, or behind if they are negative. -/
  | minutes (ahead : Int)
deriving DecidableEq, Repr

/-- What a calendar and a clock show. -/
structure Moment where
  date : Option Date
  time : Option TimeOfDay
  offset : Option ClockOffset
deriving DecidableEq, Repr

/-- The written form of a time of day. The fraction of the second has no zeros at its
end, and is left out if there is none. -/
def TimeOfDay.text (time : TimeOfDay) : List Char :=
  let fraction := ((padded 9 time.nanos).reverse.dropWhile (· == '0')).reverse
  padded 2 time.hour ++ ':' :: padded 2 time.minute ++ ':' :: padded 2 time.second ++
    (if fraction.isEmpty then [] else '.' :: fraction)

/-- The written form of an offset. -/
def ClockOffset.text : ClockOffset → List Char
  | utc => ['Z']
  | minutes ahead =>
    (if ahead < 0 then '-' else '+') ::
      padded 2 (ahead.natAbs / 60) ++ ':' :: padded 2 (ahead.natAbs % 60)

/-- A date, as `1979-05-27`, that is in the calendar. -/
def readDate? (text : List Char) : Option (Date × List Char) := do
  let (year, rest) ← readDigitsExactly 4 text
  let rest ← expectChar '-' rest
  let (month, rest) ← readDigitsExactly 2 rest
  let rest ← expectChar '-' rest
  let (day, rest) ← readDigitsExactly 2 rest
  let date := Date.mk year month day
  if date.Valid then some (date, rest) else none

/-- A time of day, as `07:32:00.5`, with the hours up to `lastHour`. Digits below the
nanosecond are dropped. -/
def readTime? (lastHour : Nat) (text : List Char) : Option (TimeOfDay × List Char) := do
  let (hour, rest) ← readDigitsExactly 2 text
  let rest ← expectChar ':' rest
  let (minute, rest) ← readDigitsExactly 2 rest
  let rest ← expectChar ':' rest
  let (second, rest) ← readDigitsExactly 2 rest
  let (fraction, rest) ← match rest with
    | '.' :: rest =>
      let digits := rest.takeWhile Char.isDigit
      if digits.isEmpty then none else some (digits, rest.drop digits.length)
    | rest => some ([], rest)
  let kept := fraction.take 9
  let nanos := Nat.ofDigitChars 10 kept 0 * Nat.pow 10 (9 - kept.length)
  if hour ≤ lastHour ∧ minute ≤ 59 ∧ second ≤ 60 then
    some (⟨hour, minute, second, nanos⟩, rest)
  else none

/-- The offset that the end of a text gives, if it gives one. -/
def readOffset? (allowed : (hours minutes : Nat) → Bool) (text : List Char) :
    Option (Option ClockOffset) :=
  match text with
  | [] => some none
  | ['Z'] | ['z'] => some (some .utc)
  | sign :: rest => do
    let (hours, rest) ← readDigitsExactly 2 rest
    let rest ← expectChar ':' rest
    let (minutes, rest) ← readDigitsExactly 2 rest
    let ahead : Int := hours * 60 + minutes
    if ¬ rest.isEmpty ∨ ¬ allowed hours minutes then none
    else if sign = '+' then some (some (.minutes ahead))
    else if sign = '-' then some (some (.minutes (-ahead)))
    else none

/-- The character may stand between a date and a time. -/
def isSeparator (c : Char) : Bool :=
  c == 'T' || c == 't' || c == ' '

namespace Moment

/-- The written form of a moment. -/
def text (moment : Moment) : String :=
  let date := moment.date.elim [] fun date =>
    padded 4 date.year.toNat ++ '-' :: padded 2 date.month ++ '-' :: padded 2 date.day
  let separator := if moment.date.isSome ∧ moment.time.isSome then ['T'] else []
  String.ofList (date ++ separator ++ moment.time.elim [] (·.text) ++
    moment.offset.elim [] (·.text))

/-- The moment that a word of a document is: a date, a time, or a date with a time and
perhaps an offset. -/
def ofWord? (word : List Char) : Option Moment :=
  match readTime? 23 word with
  | some (time, rest) => if rest.isEmpty then some ⟨none, some time, none⟩ else none
  | none => do
    let (date, rest) ← readDate? word
    match rest with
    | [] => some ⟨some date, none, none⟩
    | separator :: rest =>
      if isSeparator separator then do
        let (time, rest) ← readTime? 23 rest
        let offset ← readOffset? (fun hours minutes => hours ≤ 23 && minutes ≤ 59) rest
        some ⟨some date, some time, offset⟩
      else none

/-- The moment that a text is. Here the hour may be 24, and a date may have an offset
without a time. -/
def ofText? (text : List Char) : Option Moment :=
  if text[2]? = some ':' then do
    let (time, rest) ← readTime? 24 text
    if rest.isEmpty then some ⟨none, some time, none⟩ else none
  else do
    let (date, rest) ← readDate? text
    let (time, rest) ←
      if rest.head?.any isSeparator then
        (readTime? 24 rest.tail).map fun (time, rest) => (some time, rest)
      else some (none, rest)
    let offset ← readOffset? (fun hours minutes => hours * 60 + minutes ≤ 1440) rest
    some ⟨some date, time, offset⟩

end Moment

end Toml

end CronSchedule
