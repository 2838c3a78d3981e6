/-!
# Binary floating point

The finite numbers of 53 significant bits, as a configuration or a document may
hold them: an integer times a power of two. `ofRatio?` rounds a fraction to the
nearest of them, and `shortestDigits` finds the fewest decimal digits that round
back to one, which `positional` and `text` write in positional form.
-/

namespace CronSchedule

/-- The number `mantissa * 2 ^ exponent`, or its negative. -/
structure Binary64 where
  negative : Bool
  mantissa : Nat
  exponent : Int
deriving DecidableEq, Repr

namespace Binary64

/-- Zero, with a sign. -/
def zero (negative : Bool) : Binary64 := ⟨negative, 0, 0⟩

/-- `a / b`, rounded to the nearest integer; a half goes to the even neighbour. -/
def divideEven (a b : Nat) : Nat :=
  let quotient := a / b
  let twice := 2 * (a % b)
  if twice < b ∨ (twice = b ∧ quotient % 2 = 0) then quotient else quotient + 1

/-- The exponent of the numbers next to the fraction `a / b`. -/
def exponentOfRatio (a b : Nat) : Int :=
  let guess : Int := (Nat.log2 a : Int) - Nat.log2 b - 52
  let scale := guess + 52
  let below :=
    if 0 ≤ scale then a < b * Nat.pow 2 scale.toNat else a * Nat.pow 2 (-scale).toNat < b
  max (-1074) (if below then guess - 1 else guess)

/-- The number nearest to a fraction, the even one of two; none where it would
be too large. -/
def ofRatio? (negative : Bool) (a b : Nat) : Option Binary64 :=
  if a = 0 then some (zero negative)
  else
    let exponent := exponentOfRatio a b
    let mantissa :=
      if 0 ≤ exponent then divideEven a (b * Nat.pow 2 exponent.toNat)
      else divideEven (a * Nat.pow 2 (-exponent).toNat) b
    let (mantissa, exponent) :=
      if mantissa = Nat.pow 2 53 then (Nat.pow 2 52, exponent + 1) else (mantissa, exponent)
    if 971 < exponent then none
    else if mantissa = 0 then some (zero negative)
    else some ⟨negative, mantissa, exponent⟩

/-- The size of the number as a fraction. -/
def ratio (x : Binary64) : Nat × Nat :=
  if 0 ≤ x.exponent then (x.mantissa * Nat.pow 2 x.exponent.toNat, 1)
  else (x.mantissa, Nat.pow 2 (-x.exponent).toNat)

/-- The number nearest to `digits * 10 ^ exponent`. -/
def ofDecimal? (negative : Bool) (digits : Nat) (exponent : Int) : Option Binary64 :=
  if digits = 0 then some (zero negative)
  else if 400 < exponent then none
  else if exponent + Nat.log2 digits < -1200 then some (zero negative)
  else if 0 ≤ exponent then ofRatio? negative (digits * Nat.pow 10 exponent.toNat) 1
  else ofRatio? negative digits (Nat.pow 10 (-exponent).toNat)

/-- The product of two numbers, with the sign of the first. -/
def mul? (x y : Binary64) : Option Binary64 :=
  ofRatio? x.negative (x.ratio.1 * y.ratio.1) (x.ratio.2 * y.ratio.2)

/-- The quotient of two numbers, with the sign of the first; `y` is not zero. -/
def div? (x y : Binary64) : Option Binary64 :=
  ofRatio? x.negative (x.ratio.1 * y.ratio.2) (x.ratio.2 * y.ratio.1)

/-- Number of decimal digits before the point, negative where zeros follow it. -/
def decimalPlace (a b : Nat) : Int :=
  if b ≤ a then (Nat.toDigits 10 (a / b)).length
  else 1 - (Nat.toDigits 10 ((b - 1) / a)).length

/-- Which of its two neighbours stands for a value that lies midway between them. -/
inductive Midway
  /-- The one farther from zero. -/
  | away
  /-- The one with an even last digit. -/
  | even
deriving DecidableEq, Repr

/-- The value on the grid of `count` significant digits that is nearest to a
number among those that round back to it: its digits and the power of ten. -/
def onGrid? (x : Binary64) (midway : Midway) (count : Nat) : Option (Nat × Int) :=
  let (a, b) := x.ratio
  let power := decimalPlace a b - count
  let (a, b) :=
    if 0 ≤ power then (a, b * Nat.pow 10 power.toNat) else (a * Nat.pow 10 (-power).toNat, b)
  let lower := a / b
  let twice := 2 * (a % b)
  let down := twice < b ∨ (twice = b ∧ midway = .even ∧ lower % 2 = 0)
  let readsBack (digits : Nat) : Bool := ofDecimal? x.negative digits power == some x
  let nearer := if down then lower else lower + 1
  let farther := if down then lower + 1 else lower
  if readsBack nearer then some (nearer, power)
  else if readsBack farther then some (farther, power)
  else none

/-- The fewest decimal digits that round back to a number, and the power of ten
that they are multiplied by. Seventeen always suffice. -/
def shortestDigits (x : Binary64) (midway : Midway) : Nat × Int :=
  if x.mantissa = 0 then (0, 0)
  else ((List.range' 1 17).findSome? (x.onGrid? midway)).getD (0, 0)

/-- The number `digits * 10 ^ power` in positional decimal form, with a sign if it is
negative and without a point if it is an integer. -/
def positional (negative : Bool) (digits : Nat) (power : Int) : String :=
  let digits := Nat.toDigits 10 digits
  let sign := if negative then "-" else ""
  let size :=
    if 0 ≤ power then digits ++ List.replicate power.toNat '0'
    else
      let places := (-power).toNat
      let padded := List.replicate (places + 1 - digits.length) '0' ++ digits
      let whole := padded.length - places
      let fraction := (padded.drop whole).reverse.dropWhile (· == '0') |>.reverse
      padded.take whole ++ (if fraction.isEmpty then [] else '.' :: fraction)
  sign ++ String.ofList size

/-- The number in positional decimal form, however large or small it is. -/
def text (x : Binary64) : String :=
  let (digits, power) := x.shortestDigits .away
  positional x.negative digits power

/-- The number rounded to an integer, a half away from zero, its sign dropped. -/
def roundedSize (x : Binary64) : Nat :=
  let (a, b) := x.ratio
  (2 * a + b) / (2 * b)

end Binary64

end CronSchedule
