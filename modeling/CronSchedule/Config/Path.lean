import CronSchedule.Config.Variable
import CronSchedule.Json.Reader

/-!
# Paths to values

The name that a source gives to a value may be a path: `output.json` is the member
`json` of the table `output`, and `zones[1]` the second item of the list `zones`.
`pathOf` reads such a name, and `setAt` puts a value at the end of a path, on the
way to which it makes the tables and lists that are not there yet.
-/

namespace CronSchedule

namespace Config

/-- One step on the way to a value. -/
inductive Step
  /-- To the member of a table. -/
  | member (name : String)
  /-- To the item of a list, from 0 on; a negative index counts from the end. -/
  | item (index : Int)
deriving DecidableEq, Repr

/-- The character may stand in the name of a step. -/
def isStepChar (c : Char) : Bool :=
  c.isAlphanum || c == '_' || c == '-' || c == ' '

/-- A step to a member, which is its name. -/
def readMember (text : List Char) : Option (Step × List Char) :=
  let name := text.takeWhile isStepChar
  if name.isEmpty then none else some (.member (String.ofList name), text.drop name.length)

/-- The rest of a step to an item, after the opening bracket: an integer between blanks. -/
def readIndex (text : List Char) : Option (Step × List Char) := do
  let text := Json.skipBlanks text
  let digits := text.takeWhile fun c => c.isDigit || c == '-'
  let index ← ConfigValue.readInt? digits
  let rest ← Text.expectChar ']' (Json.skipBlanks (text.drop digits.length))
  some (.item index, rest)

/-- The steps after the first one, up to the end of a text no longer than `fuel`. -/
def readSteps : Nat → List Char → Option (List Step)
  | _, [] => some []
  | 0, _ => none
  | fuel + 1, '.' :: rest => do
    let (step, rest) ← readMember rest
    return step :: (← readSteps fuel rest)
  | fuel + 1, '[' :: rest => do
    let (step, rest) ← readIndex rest
    return step :: (← readSteps fuel rest)
  | _, _ => none

/-- The path that a name is. A name that does not read as a path is the only step to
a member of that name. -/
def pathOf (name : String) : List Step :=
  let path := do
    let (step, rest) ← readMember name.toList
    return step :: (← readSteps rest.length rest)
  path.getD [.member name]

/-- The place in a list of some size that an index means. -/
def placeOf (index : Int) (size : Nat) : Nat :=
  if 0 ≤ index then index.toNat else size - index.natAbs

/-- Items with one of them changed, after as many `null`s as the list lacks to have it. -/
def changeItem (index : Int) (change : ConfigValue → ConfigValue) (items : List ConfigValue) :
    List ConfigValue :=
  let place := placeOf index items.length
  (items ++ List.replicate (place + 1 - items.length) ConfigValue.null).modify place change

/-- A value put at the end of a path in another. A step into what is not a table, or
not a list, makes one; only at the last step are tables joined. -/
def setAt (value : ConfigValue) : List Step → ConfigValue → ConfigValue
  | [], _ => value
  | [.member name], target => .table (ConfigValue.mergeMember target.members name value)
  | .member name :: path, target =>
    let name := ConfigValue.foldCase name
    let inner := (target.members.lookup name).getD .null
    .table (ConfigValue.replace name (setAt value path inner) target.members)
  | .item index :: path, target =>
    .list (changeItem index (setAt value path) target.items)

end Config

end CronSchedule
