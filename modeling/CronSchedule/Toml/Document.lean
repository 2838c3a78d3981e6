import CronSchedule.Config.Value
import CronSchedule.Toml.Moment

/-!
# TOML documents under construction

A TOML document grows line by line: a header opens a table, and the lines below
it put values into that table. Nothing may be defined twice. `Node` keeps how each
table came about, since that decides what may still be added to it: a table that
was only passed through on the way to another may be opened later, and dotted
keys may add to what dotted keys began, but to nothing else. `Members.toValue?` is
what a finished document says.
-/

namespace CronSchedule

namespace Toml

/-- A part of a document. -/
inductive Node
  /-- A value without parts. -/
  | scalar (value : ConfigValue)
  | moment (moment : Moment)
  | array (items : List Node)
  /-- A table that is written as one value. Nothing may be added to it. -/
  | closed (members : List (String × Node))
  /-- A table that grows. It is `implicit` if no header has opened it, and `dotted` if
  a dotted key has begun it. -/
  | table (implicit dotted : Bool) (members : List (String × Node))
  /-- An array of tables, each opened by a header, the latest first. -/
  | tables (items : List Node)

/-- The members of a table. -/
abbrev Members := List (String × Node)

namespace Members

/-- Members with a node in place of the one of the same name, or at the end. -/
def put (name : String) (node : Node) : Members → Members
  | [] => [(name, node)]
  | (other, kept) :: later =>
    if other = name then (name, node) :: later else (other, kept) :: put name node later

/-- The members at the end of a path changed by `change`, which is told whether
the table there is dotted. Tables that the path needs are made; `viaKey` says that
the path is part of a dotted key and not of a header. -/
def changeAt (viaKey : Bool) (change : Bool → Members → Option Members) :
    List String → Bool → Members → Option Members
  | [], dotted, members => change dotted members
  | name :: path, _, members =>
    match members.lookup name with
    | none => do
      let inner ← changeAt viaKey change path viaKey []
      return put name (.table true viaKey inner) members
    | some (.table implicit dotted inner) =>
      if viaKey && !implicit then none
      else do
        let inner ← changeAt viaKey change path dotted inner
        return put name (.table implicit dotted inner) members
    | some (.tables (.table implicit dotted inner :: earlier)) => do
      let inner ← changeAt viaKey change path dotted inner
      return put name (.tables (.table implicit dotted inner :: earlier)) members
    | some _ => none

/-- The members with a new name for a value, in a table that only dotted keys add to. -/
def define (name : String) (value : Node) (ofKey dotted : Bool) (members : Members) :
    Option Members :=
  if dotted = ofKey ∧ (members.lookup name).isNone then some (put name value members)
  else none

/-- The members with a value for a key, which is the name `name` below a path. -/
def defineAt (path : List String) (name : String) (value : Node) (members : Members) :
    Option Members :=
  changeAt true (define name value (!path.isEmpty)) path false members

/-- The members of a document with a value for a key in the table of a header. -/
def defineIn (header path : List String) (name : String) (value : Node)
    (members : Members) : Option Members :=
  changeAt false (fun _ inner => defineAt path name value inner) header false members

/-- The members with a table opened, which becomes the last one of them. -/
def openTable (name : String) (members : Members) : Option Members :=
  match members.lookup name with
  | none => some (put name (.table false false []) members)
  | some (.table true false inner) =>
    let others : Members := members.filter (·.1 != name)
    some (others ++ [(name, .table false false inner)])
  | some _ => none

/-- The members with one more table in an array of tables. -/
def openItem (name : String) (members : Members) : Option Members :=
  match members.lookup name with
  | none => some (put name (.tables [.table false false []]) members)
  | some (.tables items) => some (put name (.tables (.table false false [] :: items)) members)
  | some _ => none

end Members

/-- The name of the member that makes a table stand for a moment, if it is the first
of the table. -/
def momentName : String := "$__toml_private_datetime"

/-- The text that a part of a document is, if it is one. -/
def Node.text? : Node → Option String
  | .scalar (.text value) => some value
  | _ => none

mutual

/-- What a part of a document says, as a value; a moment is a text. -/
def Node.toValue? : Node → Option ConfigValue
  | .scalar value => some value
  | .moment moment => some (.text moment.text)
  | .array items => (Node.toValues? items).map .list
  | .closed members => Members.toValue? members
  | .table _ _ members => Members.toValue? members
  | .tables items => (Node.toValues? items).map fun items => .list items.reverse

/-- The values of several parts. -/
def Node.toValues? : List Node → Option (List ConfigValue)
  | [] => some []
  | item :: later => do
    let value ← item.toValue?
    return value :: (← Node.toValues? later)

/-- What a table says. If it stands for a moment, the text of its first member has to
be one, and the others do not matter. -/
def Members.toValue? : Members → Option ConfigValue
  | [] => some (.table [])
  | (name, node) :: later => do
    if name = momentName then
      let moment ← Moment.ofText? (← node.text?).toList
      return .text moment.text
    else
      let value ← node.toValue?
      return .table ((name, value) :: (← Members.toValues? later))

/-- The members of a table as values. -/
def Members.toValues? : Members → Option (List (String × ConfigValue))
  | [] => some []
  | (name, node) :: later => do
    let value ← node.toValue?
    return (name, value) :: (← Members.toValues? later)

end

end Toml

end CronSchedule
