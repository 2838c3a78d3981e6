import CronSchedule.Expression.Error
import CronSchedule.Text.Blank
import CronSchedule.Text.Split
import CronSchedule.Text.UpperCase

/-!
# The text of an expression, and its fields

An expression is written in any case and with any white space between its
fields. `normalize` brings it into one form, upper case with single spaces, and
`fieldTokens` cuts that form into its seven fields. The year may be left out and
is then `*`.
-/

namespace CronSchedule

namespace Expression

open Text

/-- The text in upper case, its words separated by single spaces. -/
def normalize (text : List Char) : List Char :=
  ([' '].intercalate (words text)).flatMap upperCase

/-- A piece of a normalized text and the byte at which it begins. -/
structure Token where
  offset : Nat
  chars : List Char
deriving DecidableEq, Repr

namespace Token

/-- The pieces of the token between the commas. -/
def items (token : Token) : List Token :=
  (withOffsets token.offset (split ',' token.chars)).map fun (offset, chars) => ⟨offset, chars⟩

end Token

/-- The words of a normalized text. -/
def tokens (text : List Char) : List Token :=
  ((withOffsets 0 (split ' ' text)).filter (!·.2.isEmpty)).map fun (offset, chars) =>
    ⟨offset, chars⟩

/-- The seven fields of a normalized text. -/
def fieldTokens (text : List Char) : Except ExpressionError (Fields Token) :=
  match tokens text with
  | [second, minute, hour, dayOfMonth, month, dayOfWeek] =>
    .ok ⟨second, minute, hour, dayOfMonth, month, dayOfWeek, ⟨byteLength text, ['*']⟩⟩
  | [second, minute, hour, dayOfMonth, month, dayOfWeek, year] =>
    .ok ⟨second, minute, hour, dayOfMonth, month, dayOfWeek, year⟩
  | _ :: _ :: _ :: _ :: _ :: _ :: _ :: extra :: _ => .error ⟨.tooManyFields, extra.offset⟩
  | _ => .error ⟨.tooFewFields, byteLength text⟩

end Expression

end CronSchedule
