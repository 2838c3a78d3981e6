import CronSchedule.Zone.Basic

/-!
# Yearly clock changes

Many zones set their clocks every year on a certain Sunday of a certain month.
Such a rule names the time that the wall clock shows just before it is set, so
the moment depends on the offset in force until then; `writtenOut` threads that
offset through the rules of a span of years.
-/

namespace CronSchedule

open Calendar

/-- A Sunday of a month: the first, the second and so on, or the last. -/
inductive SundayOfMonth
  | nth (n : Nat)
  | last
deriving DecidableEq, Repr

namespace SundayOfMonth

/-- The number of the day that the Sunday falls on. -/
def dayIn (year : Int) (month : Nat) : SundayOfMonth → Int
  | nth n =>
    let first := Date.dayNumber ⟨year, month, 1⟩
    first + daysUntil (weekday first) 1 + 7 * (n - 1)
  | last =>
    let final := Date.dayNumber ⟨year, month, monthLength year month⟩
    final - daysUntil 1 (weekday final)

end SundayOfMonth

/-- A clock change that comes back every year. -/
structure YearlyChange where
  month : Nat
  sunday : SundayOfMonth
  /-- Second of the day that the wall clock has reached when it is set. -/
  wallTime : Nat
  /-- The offset from then on. -/
  offset : Offset
deriving DecidableEq, Repr

namespace YearlyChange

/-- The change in one year, at a wall clock that is `current` ahead of UTC. -/
def inYear (change : YearlyChange) (current : Offset) (year : Nat) : Change :=
  let day := change.sunday.dayIn year change.month
  ⟨day * 86400 + change.wallTime - current.seconds, change.offset⟩

/-- The changes of these years and rules, one after the other. -/
def chain (current : Offset) : List (Nat × YearlyChange) → List Change
  | [] => []
  | (year, change) :: later =>
    change.inYear current year :: chain change.offset later

/-- The changes that these rules, in the order of the calendar, bring in every
year from `first` to `final`. -/
def writtenOut (current : Offset) (first final : Nat) (rules : List YearlyChange) :
    List Change :=
  chain current <| (List.range' first (final + 1 - first)).flatMap fun year =>
    rules.map fun rule => (year, rule)

end YearlyChange

end CronSchedule
