import CronSchedule.Config.Value

/-!
# Configuration in environment variables

An environment variable holds a text, which is read as the most special type that
it fits: a truth value, an integer, a number, or else the text as it is.
-/

namespace CronSchedule

namespace ConfigValue

/-- The sign at the beginning of a text, negative or not, and the rest. -/
def splitSign (text : List Char) : Bool × List Char :=
  match text with
  | '-' :: rest => (true, rest)
  | '+' :: rest => (false, rest)
  | rest => (false, rest)

/-- An integer of 64 bits. -/
def readInt? (text : List Char) : Option Int :=
  let (negative, digits) := splitSign text
  let size := Nat.ofDigitChars 10 digits 0
  if digits.isEmpty ∨ ¬ digits.all Char.isDigit then none
  else if negative then (if size ≤ Nat.pow 2 63 then some (-size) else none)
  else (if (size : Int) ≤ greatestInt then some size else none)

/-- The power of ten at the end of a number. -/
def readPower? (text : List Char) : Option Int :=
  match text with
  | [] => some 0
  | 'e' :: rest | 'E' :: rest =>
    let (negative, digits) := splitSign rest
    if digits.isEmpty ∨ ¬ digits.all Char.isDigit then none
    else
      let size : Int := Nat.ofDigitChars 10 digits 0
      some (if negative then -size else size)
  | _ => none

/-- A number with digits before or after a point, and a power of ten. -/
def readDecimal? (negative : Bool) (text : List Char) : Option ConfigValue := do
  let whole := text.takeWhile Char.isDigit
  let rest := text.drop whole.length
  let fraction := match rest with
    | '.' :: rest => rest.takeWhile Char.isDigit
    | _ => []
  let rest := match rest with
    | '.' :: rest => rest.drop fraction.length
    | rest => rest
  if whole.isEmpty ∧ fraction.isEmpty then none
  else
    let power ← readPower? rest
    let digits := Nat.ofDigitChars 10 (whole ++ fraction) 0
    match Binary64.ofDecimal? negative digits (power - fraction.length) with
    | some value => some (float value)
    | none => some (infinite negative)

/-- A number, an infinite one and none at all included. -/
def readNumber? (text : List Char) : Option ConfigValue :=
  let (negative, rest) := splitSign text
  let lower := String.ofList (rest.map Char.toLower)
  if lower = "inf" ∨ lower = "infinity" then some (infinite negative)
  else if lower = "nan" then some notANumber
  else readDecimal? negative rest

/-- The value that the text of a variable stands for. -/
def ofVariable (value : String) : ConfigValue :=
  let lower := value.toLower
  if lower = "true" then bool true
  else if lower = "false" then bool false
  else match readInt? value.toList with
    | some number => int number
    | none => (readNumber? value.toList).getD (text value)

end ConfigValue

end CronSchedule
