/-!
# Decimal digits

Numbers written with a least width, digits read up to a greatest one, and whole
texts that are a number of 64 bits.
-/

namespace CronSchedule

namespace Text

/-- A number in decimal digits, with zeros before it up to a width. -/
def padded (width n : Nat) : List Char :=
  let digits := Nat.toDigits 10 n
  List.replicate (width - digits.length) '0' ++ digits

/-- The number that the digits at the beginning of a text write, and what follows
them: at least one digit and at most `width`. -/
def readDigits (width : Nat) (text : List Char) : Option (Nat × List Char) :=
  let digits := (text.take width).takeWhile Char.isDigit
  if digits.isEmpty then none
  else some (Nat.ofDigitChars 10 digits 0, text.drop digits.length)

/-- As `readDigits`, with exactly `width` digits. -/
def readDigitsExactly (width : Nat) (text : List Char) : Option (Nat × List Char) :=
  let digits := text.take width
  if digits.length = width ∧ digits.all Char.isDigit then
    some (Nat.ofDigitChars 10 digits 0, text.drop width)
  else none

/-- The largest number of 64 bits. -/
def greatestWord : Nat := Nat.pow 2 64 - 1

/-- The number of 64 bits that a text writes; a plus sign may stand before it. -/
def wordOf? (text : List Char) : Option Nat :=
  let digits := match text with
    | '+' :: rest => rest
    | all => all
  let number := Nat.ofDigitChars 10 digits 0
  if digits.isEmpty ∨ ¬ digits.all Char.isDigit ∨ greatestWord < number then none
  else some number

/-- The text after a character that it must begin with. -/
def expectChar (c : Char) : List Char → Option (List Char)
  | [] => none
  | first :: rest => if first = c then some rest else none

end Text

end CronSchedule
