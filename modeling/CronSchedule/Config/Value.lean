import CronSchedule.Json.Basic
import CronSchedule.Text.Decimal

/-!
# Configuration values

What a configuration source says about a setting. Sources differ in the types
that they can express, so a value is turned into the type of its setting only
when all sources have been joined: `toText?` and `toCount?` take every value that
can be understood as a text or as a number. Tables are joined member by member
(`mergeMember`), whatever the case of their names; any other value replaces what
was there.
-/

namespace CronSchedule

/-- A value of a configuration source. -/
inductive ConfigValue
  | null
  | bool (value : Bool)
  | int (value : Int)
  | float (value : Binary64)
  | infinite (negative : Bool)
  | notANumber
  | text (value : String)
  | list (items : List ConfigValue)
  | table (members : List (String × ConfigValue))
deriving Repr

namespace ConfigValue

/-- The members of a table; other values have none. -/
def members : ConfigValue → List (String × ConfigValue)
  | table members => members
  | _ => []

/-- The items of a list; other values have none. -/
def items : ConfigValue → List ConfigValue
  | list items => items
  | _ => []

/-- A name in lower case, which is the form that names are compared in. Of the letters
beyond ASCII only the Kelvin sign has a small form in ASCII; the others stay, since no
setting is named with them. -/
def foldCase (name : String) : String :=
  name.map fun c => if c = '\u212a' then 'k' else c.toLower

/-- Members with a value put in place of the one of the same name, or at the end. -/
def replace (name : String) (value : ConfigValue) :
    List (String × ConfigValue) → List (String × ConfigValue)
  | [] => [(name, value)]
  | (other, kept) :: later =>
    if other = name then (name, value) :: later else (other, kept) :: replace name value later

mutual

/-- Members joined with one more, its name in any case. A table is joined with the
value that was there. -/
def mergeMember (members : List (String × ConfigValue)) (name : String) :
    ConfigValue → List (String × ConfigValue)
  | table incoming =>
    let name := foldCase name
    replace name (mergeInto ((members.lookup name).getD (table [])) incoming) members
  | value => replace (foldCase name) value members

/-- A value joined with the members of a table. Without members it stays what it
is; with any it becomes a table. -/
def mergeInto (target : ConfigValue) : List (String × ConfigValue) → ConfigValue
  | [] => target
  | (name, value) :: later => mergeInto (table (mergeMember target.members name value)) later

end

/-- The largest integer of a document; greater ones are rounded. -/
def greatestInt : Int := (Nat.pow 2 63 - 1 : Nat)

mutual

/-- The value of a JSON document. -/
def ofJson : Json → ConfigValue
  | .null => null
  | .bool value => bool value
  | .int value =>
    if value ≤ greatestInt then int value
    else match Binary64.ofRatio? false value.toNat 1 with
      | some value => float value
      | none => infinite false
  | .float value => float value
  | .string value => text value
  | .array items => list (ofItems items)
  | .object members => table (ofMembers members)

/-- The values of the items of an array. -/
def ofItems : List Json → List ConfigValue
  | [] => []
  | item :: later => ofJson item :: ofItems later

/-- The values of the members of an object. -/
def ofMembers : List (String × Json) → List (String × ConfigValue)
  | [] => []
  | (name, value) :: later => (name, ofJson value) :: ofMembers later

end

/-- The value as a text, if it has one. -/
def toText? : ConfigValue → Option String
  | bool value => some (toString value)
  | int value => some (toString value)
  | float value => some value.text
  | infinite negative => some (if negative then "-inf" else "inf")
  | notANumber => some "NaN"
  | text value => some value
  | null | list _ | table _ => none

/-- A text as a number: digits, or a word for yes or no. -/
def countOfText? (value : String) : Option Nat :=
  let lower := value.toLower
  if lower ∈ ["true", "on", "yes"] then some 1
  else if lower ∈ ["false", "off", "no"] then some 0
  else Text.wordOf? value.toList

/-- The value as a number that is not negative, if it is one. A number with a
fraction is rounded to an integer in range. -/
def toCount? : ConfigValue → Option Nat
  | bool value => some value.toNat
  | int value => if 0 ≤ value then some value.toNat else none
  | float value => some (if value.negative then 0 else min value.roundedSize Text.greatestWord)
  | infinite negative => some (if negative then 0 else Text.greatestWord)
  | notANumber => some 0
  | text value => countOfText? value
  | null | list _ | table _ => none

/-- The value as the name of a choice: a text, or a table with that one member. -/
def toName? : ConfigValue → Option String
  | text value => some value
  | table [(name, _)] => some name
  | _ => none

end ConfigValue

end CronSchedule
