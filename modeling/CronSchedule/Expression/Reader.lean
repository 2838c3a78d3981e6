import CronSchedule.Expression.Item
import CronSchedule.Expression.Token

/-!
# Reading the items of a field

An item is read from left to right by a `Cursor`, which knows what is left of it
and where that is in the expression, so that every fault is reported with its
position. `readItem` reads one item and checks that its values are in the field;
`readItems` reads a field, after the rules that concern the list as a whole
(`checkList`).
-/

namespace CronSchedule

namespace Expression

/-- What is left of an item, and its position in the expression. -/
structure Cursor where
  rest : List Char
  position : Nat
deriving DecidableEq, Repr

namespace Cursor

/-- The next character. -/
def peek? (cursor : Cursor) : Option Char :=
  cursor.rest.head?

/-- The cursor `n` characters further on. -/
def skip (cursor : Cursor) (n : Nat) : Cursor :=
  ⟨cursor.rest.drop n, cursor.position + n⟩

/-- A fault at the cursor. -/
def fail {α : Type} (cursor : Cursor) (fault : Fault) : Except ExpressionError α :=
  .error ⟨fault, cursor.position⟩

/-- What stands at the cursor, or the end there, is not expected. -/
def failUnexpected {α : Type} (cursor : Cursor) : Except ExpressionError α :=
  match cursor.peek? with
  | some c => cursor.fail (.unexpected c)
  | none => cursor.fail .unexpectedEnd

/-- Nothing may be left. -/
def expectEnd (cursor : Cursor) : Except ExpressionError Unit :=
  if cursor.rest.isEmpty then .ok () else cursor.failUnexpected

/-- The largest number that can be written. -/
def greatestNumber : Nat := 4294967295

/-- A decimal number; leading zeros are allowed. -/
def readNumber (cursor : Cursor) : Except ExpressionError (Nat × Cursor) :=
  let digits := cursor.rest.takeWhile Char.isDigit
  let number := Nat.ofDigitChars 10 digits 0
  if digits.isEmpty then cursor.failUnexpected
  else if greatestNumber < number then cursor.fail (.numberTooLarge (String.ofList digits))
  else .ok (number, cursor.skip digits.length)

/-- The three letters of a month or of a weekday. -/
def readName (field : Field) (cursor : Cursor) : Except ExpressionError (Nat × Cursor) :=
  let letters := cursor.rest.take 3
  let name := String.ofList letters
  if letters.length < 3 ∨ ¬ letters.all Char.isUpper then cursor.fail (.notAName name)
  else match field, field.valueOfName? name with
    | _, some value => .ok (value, cursor.skip 3)
    | .month, none => cursor.fail (.unknownMonth name)
    | .dayOfWeek, none => cursor.fail (.unknownWeekday name)
    | _, none => cursor.fail (.notAName name)

/-- A number or a name. -/
def readValue (field : Field) (cursor : Cursor) : Except ExpressionError (Nat × Cursor) :=
  match cursor.peek? with
  | some c =>
    if c.isDigit then cursor.readNumber
    else if c.isUpper then cursor.readName field
    else cursor.failUnexpected
  | none => cursor.failUnexpected

/-- The number after a `/`. -/
def readStep (field : Field) (cursor : Cursor) : Except ExpressionError (Nat × Cursor) := do
  if cursor.rest.isEmpty then
    cursor.fail .missingStep
  let (step, after) ← cursor.readNumber
  if step = 0 then
    cursor.fail .zeroStep
  if field.greatestStep < step then
    cursor.fail (.stepTooLarge field step)
  return (step, after)

end Cursor

/-- The largest offset from the last day of a month. -/
def greatestLastDayOffset : Nat := 30

/-- The value must be in the field. -/
def checkRange (yearLimit : Nat) (field : Field) (position value : Nat) :
    Except ExpressionError Unit :=
  if value < field.least ∨ field.greatest yearLimit < value then
    .error ⟨.outOfRange field yearLimit, position⟩
  else .ok ()

/-- A range that starts, and ends if an end is given, in the field. Only years
may not run past the largest value to the smallest. -/
def checkedRange (yearLimit : Nat) (field : Field) (position start : Nat) (stop : Option Nat)
    (step : Nat) : Except ExpressionError Item := do
  checkRange yearLimit field position start
  if let some stop := stop then
    checkRange yearLimit field position stop
  if stop.getD (field.greatest yearLimit) < start ∧ field.cycle?.isNone then
    .error ⟨.yearsReversed, position⟩
  return .range start stop step

/-- An item that begins with `?`. -/
def readUnspecified (field : Field) (cursor : Cursor) : Except ExpressionError Item := do
  let after := cursor.skip 1
  if ¬ after.rest.isEmpty then
    after.fail .afterUnspecified
  if ¬ field.isDay then
    after.fail .unspecifiedOutsideDays
  return .unspecified

/-- An item that begins with `*` or `/`. -/
def readWildcard (yearLimit : Nat) (field : Field) (cursor : Cursor) :
    Except ExpressionError Item := do
  let after := if cursor.peek? = some '*' then cursor.skip 1 else cursor
  if cursor.peek? = some '*' ∧ after.rest.isEmpty then
    return .all
  if after.peek? ≠ some '/' then
    after.failUnexpected
  let (step, after) ← (after.skip 1).readStep field
  after.expectEnd
  checkedRange yearLimit field cursor.position field.least none step

/-- The forms of the day-of-month field that begin with `L`. -/
def readLastDay (cursor : Cursor) : Except ExpressionError Item := do
  let after := cursor.skip 1
  let (offset, after) ← match after.peek? with
    | some '-' => (after.skip 1).readNumber
    | _ => pure (0, after)
  if greatestLastDayOffset < offset then
    after.fail .lastDayOffsetTooLarge
  if after.peek? = some 'W' then
    (after.skip 1).expectEnd
    return .lastDay offset true
  else
    after.expectEnd
    return .lastDay offset false

/-- An item that begins with `L`. Alone in the day-of-week field it is the last
day of the week. -/
def readLast (yearLimit : Nat) (field : Field) (cursor : Cursor) :
    Except ExpressionError Item := do
  match field with
  | .dayOfMonth => readLastDay cursor
  | .dayOfWeek =>
    (cursor.skip 1).expectEnd
    return .value (field.greatest yearLimit)
  | _ => cursor.fail .lastNotAllowed

/-- An item that begins with a number or a name. -/
def readValues (yearLimit : Nat) (field : Field) (cursor : Cursor) :
    Except ExpressionError Item := do
  let (start, after) ← cursor.readValue field
  match after.peek? with
  | none =>
    checkRange yearLimit field cursor.position start
    return .value start
  | some 'L' =>
    if field ≠ .dayOfWeek then
      after.fail .lastNotAllowed
    (after.skip 1).expectEnd
    checkRange yearLimit field cursor.position start
    return .lastWeekday start
  | some 'W' =>
    if field ≠ .dayOfMonth then
      after.fail .nearestWeekdayNotAllowed
    if field.greatest yearLimit < start then
      cursor.fail .nearestWeekdayBeyondMonth
    (after.skip 1).expectEnd
    checkRange yearLimit field cursor.position start
    return .nearestWeekday start
  | some '#' =>
    if field ≠ .dayOfWeek then
      after.fail .nthWeekdayNotAllowed
    match (after.skip 1).readNumber with
    | .ok (nth, last) =>
      if nth < 1 ∨ 5 < nth then
        (after.skip 1).fail .nthOutOfRange
      last.expectEnd
      checkRange yearLimit field cursor.position start
      return .nthWeekday start nth
    | .error _ => (after.skip 1).fail .nthOutOfRange
  | some '-' =>
    let (stop, after) ← (after.skip 1).readValue field
    let (step, after) ← match after.peek? with
      | some '/' => (after.skip 1).readStep field
      | _ => pure (1, after)
    after.expectEnd
    checkedRange yearLimit field cursor.position start (some stop) step
  | some '/' =>
    let (step, after) ← (after.skip 1).readStep field
    after.expectEnd
    checkedRange yearLimit field cursor.position start none step
  | some _ => after.failUnexpected

/-- One item of a field. -/
def readItem (yearLimit : Nat) (field : Field) (item : Token) : Except ExpressionError Item :=
  let cursor : Cursor := ⟨item.chars, item.offset⟩
  match cursor.peek? with
  | none => cursor.fail (.emptyItem field)
  | some '?' => readUnspecified field cursor
  | some '*' | some '/' => readWildcard yearLimit field cursor
  | some 'L' => readLast yearLimit field cursor
  | some _ => readValues yearLimit field cursor

/-- The first rule about the list as a whole that the text of a field breaks:
what chooses a single day cannot stand beside other values. -/
def listFault? (field : Field) (chars : List Char) : Option Fault :=
  let isList := ',' ∈ chars
  if isList ∧ '?' ∈ chars then some .unspecifiedInList
  else match field with
    | .dayOfMonth =>
      if isList ∧ 'L' ∈ chars then some .lastDayInList
      else if isList ∧ 'W' ∈ chars then some .nearestWeekdayInList
      else none
    | .dayOfWeek =>
      if isList ∧ 'L' ∈ chars then some .lastWeekdayInList
      else if 1 < chars.count '#' then some .severalNthWeekdays
      else if isList ∧ '#' ∈ chars then some .nthWeekdayInList
      else none
    | _ => none

/-- The items of a field, in order. -/
def readItems (yearLimit : Nat) (field : Field) (token : Token) :
    Except ExpressionError (List Item) :=
  match listFault? field token.chars with
  | some fault => .error ⟨fault, token.offset⟩
  | none => token.items.mapM (readItem yearLimit field)

end Expression

end CronSchedule
