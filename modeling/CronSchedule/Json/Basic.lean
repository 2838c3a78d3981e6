import CronSchedule.Number.Binary64

/-!
# JSON documents

The values of JSON, and how they are written: on one line (`Json.compact`) or
spread over several (`Json.pretty`). Members of an object keep the order in
which they are listed.
-/

namespace CronSchedule

/-- A JSON value. -/
inductive Json
  | null
  | bool (value : Bool)
  | int (value : Int)
  | float (value : Binary64)
  | string (value : String)
  | array (items : List Json)
  | object (members : List (String × Json))
deriving Repr

namespace Json

/-- A list of strings. -/
def strings (values : List String) : Json :=
  array (values.map string)

/-- The value, or `null` if there is none. -/
def ofOption {α : Type} (f : α → Json) : Option α → Json
  | some value => f value
  | none => null

/-- The member of an object with a name. -/
def get? (name : String) : Json → Option Json
  | object members => members.lookup name
  | _ => none

/-- Members with one more: in its place among the names in order, or in the place of
the one that had its name. -/
def putMember (name : String) (value : Json) : List (String × Json) → List (String × Json)
  | [] => [(name, value)]
  | (other, kept) :: later =>
    if name < other then (name, value) :: (other, kept) :: later
    else if name = other then (name, value) :: later
    else (other, kept) :: putMember name value later

/-- The hexadecimal digit of a number below 16, in lower case. -/
def hexDigit (n : Nat) : Char :=
  Nat.digitChar n

/-- A character as it stands in a JSON string. Quotes, backslashes and control
characters are escaped. -/
def escape (c : Char) : List Char :=
  match c with
  | '"' => ['\\', '"']
  | '\\' => ['\\', '\\']
  | '\n' => ['\\', 'n']
  | '\r' => ['\\', 'r']
  | '\t' => ['\\', 't']
  | '\x08' => ['\\', 'b']
  | '\x0c' => ['\\', 'f']
  | c =>
    if c.toNat < 0x20 then
      ['\\', 'u', '0', '0', hexDigit (c.toNat / 16), hexDigit (c.toNat % 16)]
    else [c]

/-- A text as a JSON string. -/
def quote (text : String) : String :=
  String.ofList ('"' :: text.toList.flatMap escape ++ ['"'])

/-- A number with a point or an exponent: in positional form from 10⁻⁵ up to 10¹⁶, and
beyond that with one digit before the point. -/
def floatText (x : Binary64) : String :=
  let (number, power) := x.shortestDigits .even
  let digits := Nat.toDigits 10 number
  let place : Int := digits.length + power
  if x.mantissa = 0 ∨ (-5 < place ∧ place ≤ 16) then
    let text := Binary64.positional x.negative number power
    if text.contains '.' then text else text ++ ".0"
  else
    let fraction := (digits.tail.reverse.dropWhile (· == '0')).reverse
    let sign := if x.negative then "-" else ""
    sign ++ String.ofList (digits.take 1 ++ if fraction.isEmpty then [] else '.' :: fraction) ++
      "e" ++ toString (place - 1)

mutual

/-- The value on one line, without blanks. -/
def compact : Json → String
  | null => "null"
  | bool value => toString value
  | int value => toString value
  | float value => floatText value
  | string value => quote value
  | array items => "[" ++ compactItems items ++ "]"
  | object members => "\x7b" ++ compactMembers members ++ "\x7d"

/-- Items between commas. -/
def compactItems : List Json → String
  | [] => ""
  | [item] => compact item
  | item :: later => compact item ++ "," ++ compactItems later

/-- Members between commas. -/
def compactMembers : List (String × Json) → String
  | [] => ""
  | [(name, value)] => quote name ++ ":" ++ compact value
  | (name, value) :: later => quote name ++ ":" ++ compact value ++ "," ++ compactMembers later

end

/-- A line break, and two blanks for every level of depth. -/
def lineBreak (depth : Nat) : String :=
  String.ofList ('\n' :: List.replicate (2 * depth) ' ')

mutual

/-- The value with each item and member on a line of its own, from a depth on. -/
def prettyAt (depth : Nat) : Json → String
  | null => "null"
  | bool value => toString value
  | int value => toString value
  | float value => floatText value
  | string value => quote value
  | array [] => "[]"
  | array items => "[" ++ prettyItems (depth + 1) items ++ lineBreak depth ++ "]"
  | object [] => "\x7b\x7d"
  | object members => "\x7b" ++ prettyMembers (depth + 1) members ++ lineBreak depth ++ "\x7d"

/-- Items, each on a line of its own. -/
def prettyItems (depth : Nat) : List Json → String
  | [] => ""
  | [item] => lineBreak depth ++ prettyAt depth item
  | item :: later => lineBreak depth ++ prettyAt depth item ++ "," ++ prettyItems depth later

/-- Members, each on a line of its own. -/
def prettyMembers (depth : Nat) : List (String × Json) → String
  | [] => ""
  | [(name, value)] => lineBreak depth ++ quote name ++ ": " ++ prettyAt depth value
  | (name, value) :: later =>
    lineBreak depth ++ quote name ++ ": " ++ prettyAt depth value ++ "," ++
      prettyMembers depth later

end

/-- The value over several lines, indented by two blanks a level. -/
def pretty (value : Json) : String :=
  prettyAt 0 value

end Json

end CronSchedule
