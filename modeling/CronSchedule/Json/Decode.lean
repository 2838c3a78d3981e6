import CronSchedule.Json.Basic
import CronSchedule.Text.Printable

/-!
# Taking values out of JSON

A document decodes to a record when its parts have the right types. A record is
written as an object, whose unknown members are passed over, or as an array of
its fields in order; fields that are left out keep their defaults. `DecodeError`
says what was found and what was expected.
-/

namespace CronSchedule

namespace Json

/-- Why a document does not decode. -/
inductive DecodeError
  /-- A value of another type. -/
  | wrongType (found : Json) (expected : String)
  /-- A value of the right type that is not among those expected. -/
  | wrongValue (found : Json) (expected : String)
  /-- An array of more items than the record has fields. -/
  | tooLong (size : Nat)
  /-- A name that is not one of the choices. -/
  | unknownChoice (name : String) (choices : List String)
  /-- The document has none of the forms expected. -/
  | noForm (expected : String)
  /-- The document has the right form, but what it says is wrong. -/
  | rejected (reason : String)
deriving Repr

/-- A character as it stands in a message: quotes, backslashes and characters that
are not printable are escaped. -/
def reveal (c : Char) : List Char :=
  match c with
  | '"' => ['\\', '"']
  | '\\' => ['\\', '\\']
  | '\n' => ['\\', 'n']
  | '\r' => ['\\', 'r']
  | '\t' => ['\\', 't']
  | '\x00' => ['\\', '0']
  | c =>
    if Text.isPrintable c then [c]
    else '\\' :: 'u' :: '\x7b' :: Nat.toDigits 16 c.toNat ++ ['\x7d']

/-- The value as it is named in a message. -/
def describe : Json → String
  | null => "null"
  | bool value => s!"boolean `{value}`"
  | int value => s!"integer `{value}`"
  | float value => s!"floating point `{floatText value}`"
  | string value => s!"string \"{String.ofList (value.toList.flatMap reveal)}\""
  | array _ => "sequence"
  | object _ => "map"

namespace DecodeError

/-- The wording of the error. -/
def message : DecodeError → String
  | wrongType found expected => s!"invalid type: {found.describe}, expected {expected}"
  | wrongValue found expected => s!"invalid value: {found.describe}, expected {expected}"
  | tooLong size => s!"invalid length {size}, expected fewer elements in array"
  | unknownChoice name choices =>
    let choices := " or ".intercalate (choices.map fun choice => s!"`{choice}`")
    s!"unknown variant `{name}`, expected {choices}"
  | noForm expected => s!"data did not match any variant of untagged enum {expected}"
  | rejected reason => reason

end DecodeError

/-- A string. -/
def decodeString : Json → Except DecodeError String
  | string value => .ok value
  | other => .error (.wrongType other "a string")

/-- A number that is not negative. -/
def decodeCount : Json → Except DecodeError Nat
  | int value =>
    if 0 ≤ value then .ok value.toNat else .error (.wrongValue (.int value) "usize")
  | other => .error (.wrongType other "usize")

/-- One of several names, written as a string or as the only member of an object,
with the value `null`. -/
def decodeChoice {α : Type} (choices : List (String × α)) : Json → Except DecodeError α
  | string name => find name
  | object [(name, value)] => do
    let choice ← find name
    match value with
    | null => return choice
    | other => .error (.wrongType other "unit")
  | object members => .error (.wrongValue (.object members) "map with a single key")
  | other => .error (.wrongType other "string or map")
where
  find (name : String) : Except DecodeError α :=
    match choices.lookup name with
    | some choice => .ok choice
    | none => .error (.unknownChoice name (choices.map (·.1)))

/-- How one field of a record `σ` is decoded. -/
structure FieldDecoder (σ : Type) where
  name : String
  decode : Json → σ → Except DecodeError σ

/-- The items of an array as the fields of a record, in order. -/
def decodeItems {σ : Type} (record : σ) : List (FieldDecoder σ) → List Json → Except DecodeError σ
  | field :: fields, item :: items => do
    let record ← field.decode item record
    decodeItems record fields items
  | _, _ => .ok record

/-- The members of an object as the fields of a record. -/
def decodeMembers {σ : Type} (fields : List (FieldDecoder σ)) (record : σ) :
    List (String × Json) → Except DecodeError σ
  | [] => .ok record
  | (name, value) :: later =>
    match fields.find? (·.name == name) with
    | some field => do
      let record ← field.decode value record
      decodeMembers fields record later
    | none => decodeMembers fields record later

/-- A record with defaults for the fields that are left out. -/
def decodeRecord {σ : Type} (expected : String) (fields : List (FieldDecoder σ)) (record : σ) :
    Json → Except DecodeError σ
  | object members => decodeMembers fields record members
  | array items => do
    let record ← decodeItems record fields items
    if fields.length < items.length then
      .error (.tooLong items.length)
    return record
  | other => .error (.wrongType other expected)

end Json

end CronSchedule
