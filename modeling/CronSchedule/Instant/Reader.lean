import CronSchedule.Instant.Basic
import CronSchedule.Text.Blank
import CronSchedule.Text.Decimal
import CronSchedule.Zone.Basic

/-!
# Reading instants

An instant is given in RFC 3339 (`ofRfc3339?`), which says by itself how far its
clock is ahead of UTC, or as what the wall clock of a zone shows
(`LocalTime.read?`): a date with a time, or a date alone for its first second.
A wall clock may show a reading twice, and then the first time is meant, or not
at all. `Instant.read` is the whole rule.
-/

namespace CronSchedule

open Text

/-- A date and a time of day as they are written, with nanoseconds past the second;
from 10⁹ on, inside a leap second. -/
structure LocalTime where
  reading : Reading
  nanos : Nat
deriving DecidableEq, Repr

namespace LocalTime

/-- The years that a date can have. -/
def isKnownYear (year : Int) : Bool :=
  -262143 ≤ year && year ≤ 262142

/-- The time of these parts, if there is such a time. Second 60 is the leap second
of its minute. -/
def ofParts? (date : Date) (hour minute second nanos : Nat) : Option LocalTime :=
  if isKnownYear date.year ∧ date.Valid ∧ hour ≤ 23 ∧ minute ≤ 59 ∧ second ≤ 60 then
    if second = 60 then
      some ⟨.ofParts date.dayNumber hour minute 59, Instant.nanosPerSecond + nanos⟩
    else some ⟨.ofParts date.dayNumber hour minute second, nanos⟩
  else none

/-- A number of at most `width` digits, blanks before it passed over. -/
def readPart (width : Nat) (text : List Char) : Option (Nat × List Char) :=
  readDigits width (dropBlanks text)

/-- A year, blanks before it passed over. Only with a sign may it have more than
four digits. -/
def readYear (text : List Char) : Option (Int × List Char) :=
  match dropBlanks text with
  | '-' :: rest => (readDigits rest.length rest).map fun (year, rest) => (-(year : Int), rest)
  | '+' :: rest => (readDigits rest.length rest).map fun (year, rest) => ((year : Int), rest)
  | rest => (readDigits 4 rest).map fun (year, rest) => ((year : Int), rest)

/-- A year, a month and a day between hyphens. -/
def readDate (text : List Char) : Option (Date × List Char) := do
  let (year, rest) ← readYear text
  let rest ← expectChar '-' rest
  let (month, rest) ← readPart 2 rest
  let rest ← expectChar '-' rest
  let (day, rest) ← readPart 2 rest
  return (⟨year, month, day⟩, rest)

/-- An hour, a minute and a second between colons, at the end of a text, on a date. -/
def readTime (date : Date) (text : List Char) : Option LocalTime := do
  let (hour, rest) ← readPart 2 text
  let rest ← expectChar ':' rest
  let (minute, rest) ← readPart 2 rest
  let rest ← expectChar ':' rest
  let (second, rest) ← readPart 2 rest
  if rest.isEmpty then ofParts? date hour minute second 0 else none

/-- A date and a time with a `T` or blanks between them, or a date alone. -/
def read? (text : List Char) : Option LocalTime := do
  let (date, rest) ← readDate text
  match rest with
  | [] => ofParts? date 0 0 0 0
  | 'T' :: rest => readTime date rest
  | rest => readTime date rest

/-- The first moment at which the wall clock of a zone shows the time. -/
def firstInstant? (zone : Zone) (time : LocalTime) : Option Instant :=
  (zone.momentsOf time.reading).head?.map fun seconds => ⟨seconds, time.nanos⟩

end LocalTime

/-- Why a text gives no instant. -/
inductive InstantError
  /-- It is written in no known form. -/
  | unrecognized (text : String)
  /-- The wall clock of the zone skips the time. -/
  | skipped (text zone : String)
deriving DecidableEq, Repr

namespace InstantError

/-- The wording of the error. -/
def message : InstantError → String
  | unrecognized text => s!"Unrecognized instant '{text}'"
  | skipped text zone => s!"'{text}' does not exist in {zone}"

end InstantError

namespace Instant

/-- Nanoseconds after a point, if there is one. Digits after the ninth are passed
over. -/
def readFraction (text : List Char) : Option (Nat × List Char) :=
  match text with
  | '.' :: rest =>
    let digits := rest.takeWhile Char.isDigit
    let kept := digits.take 9
    if digits.isEmpty then none
    else some (Nat.ofDigitChars 10 kept 0 * Nat.pow 10 (9 - kept.length), rest.drop digits.length)
  | rest => some (0, rest)

/-- How far a clock is ahead of UTC, in seconds, at the end of a text. -/
def readOffset (text : List Char) : Option Int :=
  let hoursAndMinutes (rest : List Char) : Option Int := do
    let (hours, rest) ← readDigitsExactly 2 rest
    let rest ← expectChar ':' rest
    let (minutes, rest) ← readDigitsExactly 2 rest
    if hours ≤ 23 ∧ minutes ≤ 59 ∧ rest.isEmpty then some (hours * 3600 + minutes * 60) else none
  match text with
  | ['Z'] | ['z'] => some 0
  | '+' :: rest => hoursAndMinutes rest
  | '-' :: rest | '−' :: rest => (hoursAndMinutes rest).map fun seconds => -seconds
  | _ => none

/-- The instant that a text of the form of RFC 3339 gives. -/
def ofRfc3339? (text : List Char) : Option Instant := do
  let (year, rest) ← readDigitsExactly 4 text
  let rest ← expectChar '-' rest
  let (month, rest) ← readDigitsExactly 2 rest
  let rest ← expectChar '-' rest
  let (day, rest) ← readDigitsExactly 2 rest
  let rest ← match rest with
    | 'T' :: rest | 't' :: rest | ' ' :: rest => some rest
    | _ => none
  let (hour, rest) ← readDigitsExactly 2 rest
  let rest ← expectChar ':' rest
  let (minute, rest) ← readDigitsExactly 2 rest
  let rest ← expectChar ':' rest
  let (second, rest) ← readDigitsExactly 2 rest
  let (nanos, rest) ← readFraction rest
  let offset ← readOffset rest
  let time ← LocalTime.ofParts? ⟨year, month, day⟩ hour minute second nanos
  return ⟨time.reading.seconds - offset, time.nanos⟩

/-- The instant that a text gives, blanks at its ends passed over: in RFC 3339, or
as the wall clock of a zone shows it. -/
def read (zone : Zone) (text : String) : Except InstantError Instant :=
  let text := trim text.toList
  match ofRfc3339? text with
  | some t => .ok t
  | none =>
    match LocalTime.read? text with
    | none => .error (.unrecognized (String.ofList text))
    | some time =>
      match time.firstInstant? zone with
      | some t => .ok t
      | none => .error (.skipped (String.ofList text) zone.name)

end Instant

end CronSchedule
