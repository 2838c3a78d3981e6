import CronSchedule.Json.Basic
import CronSchedule.Text.Decimal

/-!
# Reading JSON

`Json.read?` reads a document that is one JSON value and nothing else. Objects
keep one member for each name, the last, in the order of the names. Integers of
64 bits are exact; every other number is rounded to a `Binary64`, first its
digits and then the power of ten that they are multiplied by.
-/

namespace CronSchedule

namespace Json

/-- The text without the blanks that it begins with. -/
def skipBlanks (text : List Char) : List Char :=
  text.dropWhile fun c => c == ' ' || c == '\n' || c == '\t' || c == '\r'

/-- The text after a word that it must begin with. -/
def expect? (word : List Char) (text : List Char) : Option (List Char) :=
  if word.isPrefixOf text then some (text.drop word.length) else none

/-- The value of a hexadecimal digit. -/
def hexValue? (c : Char) : Option Nat :=
  if c.isDigit then some (c.toNat - 48)
  else if 'a' ≤ c ∧ c ≤ 'f' then some (c.toNat - 87)
  else if 'A' ≤ c ∧ c ≤ 'F' then some (c.toNat - 55)
  else none

/-- The number that four hexadecimal digits write. -/
def readHex4 : List Char → Option (Nat × List Char)
  | a :: b :: c :: d :: rest => do
    let a ← hexValue? a
    let b ← hexValue? b
    let c ← hexValue? c
    let d ← hexValue? d
    some (a * 4096 + b * 256 + c * 16 + d, rest)
  | _ => none

/-- The character after `\u`, which two escapes write if it is beyond U+FFFF. -/
def readUnicode (text : List Char) : Option (Char × List Char) := do
  let (high, rest) ← readHex4 text
  if 0xd800 ≤ high ∧ high < 0xdc00 then
    match rest with
    | '\\' :: 'u' :: rest =>
      let (low, rest) ← readHex4 rest
      if 0xdc00 ≤ low ∧ low < 0xe000 then
        some (Char.ofNat (0x10000 + (high - 0xd800) * 0x400 + (low - 0xdc00)), rest)
      else none
    | _ => none
  else if 0xdc00 ≤ high ∧ high < 0xe000 then none
  else some (Char.ofNat high, rest)

/-- The character after a backslash. -/
def readEscape : List Char → Option (Char × List Char)
  | '"' :: rest => some ('"', rest)
  | '\\' :: rest => some ('\\', rest)
  | '/' :: rest => some ('/', rest)
  | 'b' :: rest => some ('\x08', rest)
  | 'f' :: rest => some ('\x0c', rest)
  | 'n' :: rest => some ('\n', rest)
  | 'r' :: rest => some ('\r', rest)
  | 't' :: rest => some ('\t', rest)
  | 'u' :: rest => readUnicode rest
  | _ => none

/-- The rest of a string after its opening quote, which is no longer than `fuel`. -/
def readStringBody : Nat → List Char → Option (List Char × List Char)
  | 0, _ => none
  | fuel + 1, text =>
    match text with
    | [] => none
    | '"' :: rest => some ([], rest)
    | '\\' :: rest => do
      let (c, rest) ← readEscape rest
      let (body, rest) ← readStringBody fuel rest
      some (c :: body, rest)
    | c :: rest =>
      if c.toNat < 0x20 then none
      else do
        let (body, rest) ← readStringBody fuel rest
        some (c :: body, rest)

/-- A string. -/
def readString (text : List Char) : Option (String × List Char) :=
  match text with
  | '"' :: rest => (readStringBody (rest.length + 1) rest).map fun (body, rest) =>
      (String.ofList body, rest)
  | _ => none

/-- As many digits, after those of `start`, as make a number of 64 bits; and how many
digits are left over. -/
def takeDigits (start : Nat) : List Char → Nat × Nat
  | [] => (start, 0)
  | d :: later =>
    let next := start * 10 + (d.toNat - 48)
    if Text.greatestWord < next then (start, later.length + 1) else takeDigits next later

/-- The number `digits * 10 ^ exponent`, with both factors rounded before they are
multiplied; none where it is too large. -/
def scaled? (negative : Bool) (digits : Nat) (exponent : Int) : Option Binary64 := do
  let size ← Binary64.ofRatio? negative digits 1
  if digits = 0 then some size
  else if 308 < exponent then none
  else if 0 ≤ exponent then size.mul? (← Binary64.ofRatio? false (Nat.pow 10 exponent.toNat) 1)
  else
    let step ← Binary64.ofRatio? false (Nat.pow 10 308) 1
    let divideBy (n : Nat) (x : Binary64) : Option Binary64 := do
      x.div? (← Binary64.ofRatio? false (Nat.pow 10 n) 1)
    let places := (-exponent).toNat
    if places ≤ 308 then divideBy places size
    else do
      let size ← size.div? step
      if size.mantissa = 0 ∨ 616 < places then some (.zero negative)
      else divideBy (places - 308) size

/-- The power of ten after `e`, if there is one. -/
def readExponent (text : List Char) : Option (Int × List Char) :=
  match text with
  | 'e' :: rest | 'E' :: rest =>
    let (negative, rest) := match rest with
      | '+' :: rest => (false, rest)
      | '-' :: rest => (true, rest)
      | rest => (false, rest)
    let digits := rest.takeWhile Char.isDigit
    if digits.isEmpty then none
    else
      let size : Int := Nat.ofDigitChars 10 digits 0
      some (if negative then -size else size, rest.drop digits.length)
  | rest => some (0, rest)

/-- The digits after the point, if there is one; at least one must follow it. -/
def readFraction (text : List Char) : Option (List Char × List Char) :=
  match text with
  | '.' :: rest =>
    let digits := rest.takeWhile Char.isDigit
    if digits.isEmpty then none else some (digits, rest.drop digits.length)
  | rest => some ([], rest)

/-- A number. -/
def readNumber (text : List Char) : Option (Json × List Char) := do
  let (negative, text) := match text with
    | '-' :: rest => (true, rest)
    | rest => (false, rest)
  let whole := text.takeWhile Char.isDigit
  if whole.isEmpty ∨ (whole.head? = some '0' ∧ 1 < whole.length) then none
  else do
    let rest := text.drop whole.length
    let (fraction, after) ← readFraction rest
    let isInteger := fraction.isEmpty && !(after.head? == some 'e' || after.head? == some 'E')
    let (exponent, after) ← readExponent after
    let size := Nat.ofDigitChars 10 whole 0
    if isInteger ∧ !negative ∧ size ≤ Text.greatestWord then some (int size, after)
    else if isInteger ∧ negative ∧ 0 < size ∧ size ≤ Nat.pow 2 63 then some (int (-size), after)
    else do
      let (start, extra) := takeDigits 0 whole
      let (digits, dropped) := takeDigits start fraction
      let power : Int := exponent + extra - (fraction.length - dropped : Nat)
      let value ← scaled? negative digits power
      some (float value, after)

/-- How many arrays and objects may lie inside one another. -/
def greatestDepth : Nat := 127

mutual

/-- A value at most `depth` levels deep, in a text no longer than `fuel`. -/
def readValue : (fuel depth : Nat) → List Char → Option (Json × List Char)
  | 0, _, _ => none
  | fuel + 1, depth, text =>
    match skipBlanks text with
    | 'n' :: rest => (expect? ['u', 'l', 'l'] rest).map (null, ·)
    | 't' :: rest => (expect? ['r', 'u', 'e'] rest).map (bool true, ·)
    | 'f' :: rest => (expect? ['a', 'l', 's', 'e'] rest).map (bool false, ·)
    | '"' :: rest => (readString ('"' :: rest)).map fun (value, rest) => (string value, rest)
    | '[' :: rest =>
      if depth = 0 then none
      else match skipBlanks rest with
        | ']' :: rest => some (array [], rest)
        | rest => (readItems fuel (depth - 1) rest).map fun (items, rest) => (array items, rest)
    | '{' :: rest =>
      if depth = 0 then none
      else match skipBlanks rest with
        | '}' :: rest => some (object [], rest)
        | rest => (readMembers fuel (depth - 1) [] rest).map fun (members, rest) =>
            (object members, rest)
    | rest => readNumber rest

/-- The items of an array up to its closing bracket. -/
def readItems : (fuel depth : Nat) → List Char → Option (List Json × List Char)
  | 0, _, _ => none
  | fuel + 1, depth, text => do
    let (item, rest) ← readValue fuel depth text
    match skipBlanks rest with
    | ',' :: rest =>
      let (items, rest) ← readItems fuel depth rest
      some (item :: items, rest)
    | ']' :: rest => some ([item], rest)
    | _ => none

/-- The members of an object up to its closing brace, after those found so far. -/
def readMembers : (fuel depth : Nat) → List (String × Json) → List Char →
    Option (List (String × Json) × List Char)
  | 0, _, _, _ => none
  | fuel + 1, depth, members, text => do
    let (name, rest) ← readString (skipBlanks text)
    match skipBlanks rest with
    | ':' :: rest =>
      let (value, rest) ← readValue fuel depth rest
      match skipBlanks rest with
      | ',' :: rest => readMembers fuel depth (putMember name value members) rest
      | '}' :: rest => some (putMember name value members, rest)
      | _ => none
    | _ => none

end

/-- The JSON value that a text is. -/
def read? (text : String) : Option Json :=
  let text := text.toList
  match readValue (2 * text.length + 2) greatestDepth text with
  | some (value, rest) => if (skipBlanks rest).isEmpty then some value else none
  | none => none

end Json

end CronSchedule
