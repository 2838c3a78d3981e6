import CronSchedule.Expression.Reader
import Mathlib.Data.List.Forall2

/-!
# The grammar of expressions

What the fields of an expression may look like, said without a reader: each
relation goes from a text to what it means. A field is a list of items between
commas (`ListItem`), or one item that cannot stand in a list (`LoneItem`);
`IsField` joins the two, and `IsExpression` asks for the fields of a whole text.
-/

namespace CronSchedule

namespace Expression

open Text

/-- Decimal digits, and the number that they write; leading zeros are allowed. -/
def IsNumber (digits : List Char) (n : Nat) : Prop :=
  digits ≠ [] ∧ (∀ c ∈ digits, c.isDigit = true) ∧ Nat.ofDigitChars 10 digits 0 = n

/-- A value of a field: a number within its bounds, or one of its names. -/
inductive IsValue (yearLimit : Nat) (field : Field) : List Char → Nat → Prop
  /-- A number. -/
  | number {digits : List Char} {n : Nat} :
      IsNumber digits n → field.least ≤ n → n ≤ field.greatest yearLimit →
      IsValue yearLimit field digits n
  /-- The three letters of a month or a weekday. -/
  | name {letters : List Char} {n : Nat} :
      field.valueOfName? (String.ofList letters) = some n → IsValue yearLimit field letters n

/-- The number after a `/`. -/
def IsStep (field : Field) (digits : List Char) (n : Nat) : Prop :=
  IsNumber digits n ∧ 1 ≤ n ∧ n ≤ field.greatestStep

/-- **An item that may stand in a list.** -/
inductive ListItem (yearLimit : Nat) (field : Field) : List Char → Item → Prop
  /-- `*` -/
  | all : ListItem yearLimit field ['*'] .all
  /-- `*/n` -/
  | allStep {digits : List Char} {n : Nat} : IsStep field digits n →
      ListItem yearLimit field ('*' :: '/' :: digits) (.range field.least none n)
  /-- `/n` -/
  | step {digits : List Char} {n : Nat} : IsStep field digits n →
      ListItem yearLimit field ('/' :: digits) (.range field.least none n)
  /-- `v` -/
  | value {text : List Char} {v : Nat} : IsValue yearLimit field text v →
      ListItem yearLimit field text (.value v)
  /-- `v-v` -/
  | range {first last : List Char} {v w : Nat} :
      IsValue yearLimit field first v → IsValue yearLimit field last w →
      (field = .year → v ≤ w) →
      ListItem yearLimit field (first ++ '-' :: last) (.range v (some w) 1)
  /-- `v-v/n` -/
  | rangeStep {first last digits : List Char} {v w n : Nat} :
      IsValue yearLimit field first v → IsValue yearLimit field last w →
      (field = .year → v ≤ w) → IsStep field digits n →
      ListItem yearLimit field (first ++ '-' :: (last ++ '/' :: digits)) (.range v (some w) n)
  /-- `v/n` -/
  | valueStep {text digits : List Char} {v n : Nat} :
      IsValue yearLimit field text v → IsStep field digits n →
      ListItem yearLimit field (text ++ '/' :: digits) (.range v none n)

/-- **An item that is a whole field.** -/
inductive LoneItem (yearLimit : Nat) : Field → List Char → Item → Prop
  /-- `?` -/
  | unspecified {field : Field} : field.isDay = true →
      LoneItem yearLimit field ['?'] .unspecified
  /-- `L` as a day of the month -/
  | lastDay : LoneItem yearLimit .dayOfMonth ['L'] (.lastDay 0 false)
  /-- `L-k` -/
  | lastDayOffset {digits : List Char} {k : Nat} :
      IsNumber digits k → k ≤ greatestLastDayOffset →
      LoneItem yearLimit .dayOfMonth ('L' :: '-' :: digits) (.lastDay k false)
  /-- `LW` -/
  | lastWorkday : LoneItem yearLimit .dayOfMonth ['L', 'W'] (.lastDay 0 true)
  /-- `L-kW` -/
  | lastWorkdayOffset {digits : List Char} {k : Nat} :
      IsNumber digits k → k ≤ greatestLastDayOffset →
      LoneItem yearLimit .dayOfMonth ('L' :: '-' :: (digits ++ ['W'])) (.lastDay k true)
  /-- `dW` -/
  | nearestWeekday {digits : List Char} {d : Nat} : IsValue yearLimit .dayOfMonth digits d →
      LoneItem yearLimit .dayOfMonth (digits ++ ['W']) (.nearestWeekday d)
  /-- `L` as a day of the week, which is Saturday -/
  | saturday : LoneItem yearLimit .dayOfWeek ['L'] (.value 7)
  /-- `vL` -/
  | lastWeekday {text : List Char} {v : Nat} : IsValue yearLimit .dayOfWeek text v →
      LoneItem yearLimit .dayOfWeek (text ++ ['L']) (.lastWeekday v)
  /-- `v#m` -/
  | nthWeekday {text digits : List Char} {v m : Nat} :
      IsValue yearLimit .dayOfWeek text v → IsNumber digits m → 1 ≤ m → m ≤ 5 →
      LoneItem yearLimit .dayOfWeek (text ++ '#' :: digits) (.nthWeekday v m)

/-- **A field**, and its items. -/
inductive IsField (yearLimit : Nat) (field : Field) (text : List Char) : List Item → Prop
  /-- One item that cannot stand in a list. -/
  | lone {item : Item} : LoneItem yearLimit field text item → IsField yearLimit field text [item]
  /-- Items between commas. -/
  | list {items : List Item} :
      List.Forall₂ (ListItem yearLimit field) (split ',' text) items →
      IsField yearLimit field text items

/-- What stands between the spaces of a text. -/
def fieldTexts (text : List Char) : List (List Char) :=
  (split ' ' text).filter (!·.isEmpty)

/-- **An expression**: six or seven fields between spaces, of which one about
days is `?`. -/
structure IsExpression (yearLimit : Nat) (text : List Char) : Prop where
  count : (fieldTexts text).length = 6 ∨ (fieldTexts text).length = 7
  fields : ∀ field chars, (field, chars) ∈ Field.all.zip (fieldTexts text) →
    ∃ items, IsField yearLimit field chars items
  unspecified : (.dayOfMonth, ['?']) ∈ Field.all.zip (fieldTexts text) ∨
    (.dayOfWeek, ['?']) ∈ Field.all.zip (fieldTexts text)

end Expression

end CronSchedule
