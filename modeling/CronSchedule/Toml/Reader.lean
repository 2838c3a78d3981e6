import CronSchedule.Config.Variable
import CronSchedule.Json.Reader
import CronSchedule.Text.Decimal
import CronSchedule.Toml.Document

/-!
# Reading TOML

`Toml.read?` reads a whole document into a table of values. A line opens a table,
or gives a value to a key, or is empty; comments may end any line. The readers of
parts return what they found and what is left; those that may go into one another
are bounded by the length of the text, and values also by `greatestDepth`.
-/

namespace CronSchedule

namespace Toml

open Text (expectChar)

/-- How many arrays and tables may lie inside one another in a value, and how many
parts a key may have. -/
def greatestDepth : Nat := 79

/-- The text without the blanks and tabs that it begins with. -/
def skipBlanks (text : List Char) : List Char :=
  text.dropWhile fun c => c == ' ' || c == '\t'

/-- The character may stand in a comment or a text on one line. -/
def isPlain (c : Char) : Bool :=
  c == '\t' || (0x20 ≤ c.toNat && c.toNat != 0x7f)

/-- The text after a comment, if it begins with one. -/
def skipComment (text : List Char) : List Char :=
  match text with
  | '#' :: rest => rest.dropWhile isPlain
  | rest => rest

/-- The text after a line break. -/
def lineBreak? : List Char → Option (List Char)
  | '\n' :: rest => some rest
  | '\r' :: '\n' :: rest => some rest
  | _ => none

/-- The text after the blanks, the comment and the break that end a line. -/
def lineEnd? (text : List Char) : Option (List Char) :=
  match skipComment (skipBlanks text) with
  | [] => some []
  | rest => lineBreak? rest

/-- The text without the blanks, comments and line breaks that it begins with. -/
def skipLines : Nat → List Char → List Char
  | 0, text => text
  | fuel + 1, text =>
    let rest := skipComment (skipBlanks text)
    match lineBreak? rest with
    | some rest => skipLines fuel rest
    | none => rest

/-- The character that so many hexadecimal digits write. -/
def readCode (width : Nat) (text : List Char) : Option (Char × List Char) := do
  let digits := text.take width
  let values ← digits.mapM Json.hexValue?
  let code := values.foldl (fun code digit => code * 16 + digit) 0
  if digits.length = width ∧ code.isValidChar then some (Char.ofNat code, text.drop width) else none

/-- The character after a backslash. -/
def readEscape : List Char → Option (Char × List Char)
  | 'b' :: rest => some ('\x08', rest)
  | 't' :: rest => some ('\t', rest)
  | 'n' :: rest => some ('\n', rest)
  | 'f' :: rest => some ('\x0c', rest)
  | 'r' :: rest => some ('\r', rest)
  | '"' :: rest => some ('"', rest)
  | '\\' :: rest => some ('\\', rest)
  | 'u' :: rest => readCode 4 rest
  | 'U' :: rest => readCode 8 rest
  | _ => none

/-- The rest of a text in quotes, in which a backslash begins an escape. -/
def readQuoted : Nat → List Char → Option (List Char × List Char)
  | 0, _ => none
  | fuel + 1, text =>
    match text with
    | '"' :: rest => some ([], rest)
    | '\\' :: rest => do
      let (c, rest) ← readEscape rest
      let (body, rest) ← readQuoted fuel rest
      some (c :: body, rest)
    | c :: rest =>
      if isPlain c then (readQuoted fuel rest).map fun (body, rest) => (c :: body, rest) else none
    | [] => none

/-- The rest of a text in apostrophes, in which every character stands for itself. -/
def readLiteral (text : List Char) : Option (List Char × List Char) :=
  let body := text.takeWhile fun c => isPlain c && c != '\''
  match text.drop body.length with
  | '\'' :: rest => some (body, rest)
  | _ => none

/-- The end of a text over several lines, if it is reached: three of its marks, and
before them up to two that belong to the text. -/
def readClosing? (mark : Char) (text : List Char) : Option (List Char × List Char) :=
  let marks := ((text.takeWhile (· == mark)).take 5).length
  if marks < 3 then none
  else some (List.replicate (marks - 3) mark, text.drop marks)

/-- The text without the blanks and line breaks that it begins with. -/
def skipGap : List Char → List Char
  | [] => []
  | '\r' :: '\n' :: rest => skipGap rest
  | c :: rest => if c = ' ' ∨ c = '\t' ∨ c = '\n' then skipGap rest else c :: rest

/-- The rest of a text over several lines. After a backslash at the end of a line,
blanks and line breaks are passed over. -/
def readLong (mark : Char) : Nat → List Char → Option (List Char × List Char)
  | 0, _ => none
  | fuel + 1, text =>
    match readClosing? mark text with
    | some closing => some closing
    | none =>
      match lineBreak? text with
      | some rest => (readLong mark fuel rest).map fun (body, rest) => ('\n' :: body, rest)
      | none =>
        match text with
        | [] => none
        | c :: rest =>
          if c = '\\' ∧ mark = '"' then
            match lineBreak? (skipBlanks rest) with
            | some rest => readLong mark fuel (skipGap rest)
            | none => do
              let (c, rest) ← readEscape rest
              let (body, rest) ← readLong mark fuel rest
              some (c :: body, rest)
          else if isPlain c then
            (readLong mark fuel rest).map fun (body, rest) => (c :: body, rest)
          else none

/-- A text in quotes of any kind. -/
def readText (text : List Char) : Option (String × List Char) :=
  let found := match text with
    | '"' :: '"' :: '"' :: rest => readLong '"' (rest.length + 1) ((lineBreak? rest).getD rest)
    | '"' :: rest => readQuoted (rest.length + 1) rest
    | '\'' :: '\'' :: '\'' :: rest => readLong '\'' (rest.length + 1) ((lineBreak? rest).getD rest)
    | '\'' :: rest => readLiteral rest
    | _ => none
  found.map fun (body, rest) => (String.ofList body, rest)

/-- The character may stand in a key without quotes. -/
def isBare (c : Char) : Bool :=
  c.isAlphanum || c == '_' || c == '-'

/-- One part of a key. -/
def readKeyPart (text : List Char) : Option (String × List Char) :=
  match text with
  | '"' :: rest => (readQuoted (rest.length + 1) rest).map fun (body, rest) => (String.ofList body, rest)
  | '\'' :: rest => (readLiteral rest).map fun (body, rest) => (String.ofList body, rest)
  | rest =>
    let name := rest.takeWhile isBare
    if name.isEmpty then none else some (String.ofList name, rest.drop name.length)

/-- A key of at most so many parts: the names before the last one, and the last one. -/
def readParts : Nat → List Char → Option ((List String × String) × List Char)
  | 0, _ => none
  | parts + 1, text => do
    let (name, rest) ← readKeyPart (skipBlanks text)
    match skipBlanks rest with
    | '.' :: rest =>
      let ((path, final), rest) ← readParts parts rest
      some ((name :: path, final), rest)
    | rest => some (([], name), rest)

/-- A key: the names before the last one, and the last one. -/
def readKey (text : List Char) : Option ((List String × String) × List Char) :=
  readParts greatestDepth text

/-- Digits without the underscores between them. -/
def digitsOf? (isDigit : Char → Bool) (text : List Char) : Option (List Char) :=
  let rec go : Bool → List Char → Option (List Char)
    | afterDigit, [] => if afterDigit then some [] else none
    | afterDigit, c :: rest =>
      if isDigit c then (go true rest).map (c :: ·)
      else if c = '_' ∧ afterDigit then go false rest
      else none
  go false text

/-- An integer with digits to a base. -/
def readBased? (base : Nat) (text : List Char) : Option ConfigValue := do
  let isDigit (c : Char) : Bool := (Json.hexValue? c).any (· < base)
  let digits ← digitsOf? isDigit text
  let values ← digits.mapM Json.hexValue?
  let number := values.foldl (fun number digit => number * base + digit) 0
  if (number : Int) ≤ ConfigValue.greatestInt then some (.int number) else none

/-- A decimal number. It has no zeros before its first digit. A number that is too large
is refused, but one that is too small becomes infinite. -/
def readDecimal? (text : List Char) : Option ConfigValue := do
  let (_, unsigned) := ConfigValue.splitSign text
  let signText := text.take (text.length - unsigned.length)
  let whole := unsigned.takeWhile fun c => c.isDigit || c == '_'
  let rest := unsigned.drop whole.length
  let digits ← digitsOf? Char.isDigit whole
  if digits.head? = some '0' ∧ 1 < digits.length then none
  else match rest with
    | [] => (ConfigValue.readInt? (signText ++ digits)).map .int
    | _ =>
      let fraction ← match rest with
        | '.' :: rest =>
          (digitsOf? Char.isDigit (rest.takeWhile fun c => c.isDigit || c == '_')).map ('.' :: ·)
        | _ => some []
      let rest := match rest with
        | '.' :: rest => rest.dropWhile fun c => c.isDigit || c == '_'
        | rest => rest
      let power ← match rest with
        | [] => some []
        | c :: rest =>
          if c = 'e' ∨ c = 'E' then
            let (_, unsigned) := ConfigValue.splitSign rest
            (digitsOf? Char.isDigit unsigned).map fun digits =>
              'e' :: (rest.take (rest.length - unsigned.length) ++ digits)
          else none
      match ConfigValue.readNumber? (signText ++ digits ++ fraction ++ power) with
      | some (.infinite false) => none
      | number => number

/-- The character ends a value that is not in quotes. -/
def endsWord (c : Char) : Bool :=
  c == ' ' || c == '\t' || c == '\n' || c == '\r' || c == ',' || c == ']' || c == '\x7d' || c == '#'

/-- The value of a word that is no moment. -/
def wordValue? (word : List Char) : Option ConfigValue :=
  match word with
  | ['t', 'r', 'u', 'e'] => some (.bool true)
  | ['f', 'a', 'l', 's', 'e'] => some (.bool false)
  | ['i', 'n', 'f'] | ['+', 'i', 'n', 'f'] => some (.infinite false)
  | ['-', 'i', 'n', 'f'] => some (.infinite true)
  | ['n', 'a', 'n'] | ['+', 'n', 'a', 'n'] | ['-', 'n', 'a', 'n'] => some .notANumber
  | '0' :: 'x' :: digits => readBased? 16 digits
  | '0' :: 'o' :: digits => readBased? 8 digits
  | '0' :: 'b' :: digits => readBased? 2 digits
  | word => readDecimal? word

/-- A value that is neither a text nor a collection. A date and its time may have a
blank between them. -/
def readWord (text : List Char) : Option (Node × List Char) :=
  let word := text.takeWhile (!endsWord ·)
  let rest := text.drop word.length
  let second := match rest with
    | ' ' :: rest => rest.takeWhile (!endsWord ·)
    | _ => []
  let long := word ++ ' ' :: second
  match Moment.ofWord? long, Moment.ofWord? word with
  | some moment, _ => some (.moment moment, text.drop long.length)
  | none, some moment => some (.moment moment, rest)
  | none, none => (wordValue? word).map fun value => (.scalar value, rest)

mutual

/-- A value at most `depth` levels deep, in a text no longer than `fuel`. -/
def readValue : (fuel depth : Nat) → List Char → Option (Node × List Char)
  | 0, _, _ => none
  | fuel + 1, depth, text =>
    match text with
    | '[' :: rest =>
      if depth = 0 then none
      else (readItems fuel (depth - 1) rest).map fun (items, rest) => (.array items, rest)
    | '\x7b' :: rest =>
      if depth = 0 then none
      else match skipBlanks rest with
        | '\x7d' :: rest => some (.closed [], rest)
        | rest => (readPairs fuel (depth - 1) [] rest).map fun (members, rest) =>
            (.closed members, rest)
    | '"' :: _ | '\'' :: _ =>
      (readText text).map fun (value, rest) => (.scalar (.text value), rest)
    | rest => readWord rest

/-- The items of an array up to its closing bracket. -/
def readItems : (fuel depth : Nat) → List Char → Option (List Node × List Char)
  | 0, _, _ => none
  | fuel + 1, depth, text =>
    match skipLines text.length text with
    | ']' :: rest => some ([], rest)
    | rest => do
      let (item, rest) ← readValue fuel depth rest
      match skipLines rest.length rest with
      | ',' :: rest =>
        let (items, rest) ← readItems fuel depth rest
        some (item :: items, rest)
      | ']' :: rest => some ([item], rest)
      | _ => none

/-- The members of a table on one line up to its closing brace. -/
def readPairs : (fuel depth : Nat) → Members → List Char → Option (Members × List Char)
  | 0, _, _, _ => none
  | fuel + 1, depth, members, text => do
    let ((path, name), rest) ← readKey text
    let rest ← expectChar '=' rest
    let (value, rest) ← readValue fuel depth (skipBlanks rest)
    let members ← Members.defineAt path name value members
    match skipBlanks rest with
    | ',' :: rest => readPairs fuel depth members rest
    | '\x7d' :: rest => some (members, rest)
    | _ => none

end

/-- The rest of a document, in the table that the last header has opened. -/
def readLines : Nat → List String → Members → List Char → Option Members
  | 0, _, _, _ => none
  | fuel + 1, header, members, text =>
    let text := skipBlanks text
    match text with
    | [] => some members
    | '[' :: '[' :: rest => do
      let ((path, name), rest) ← readKey rest
      let rest ← expectChar ']' rest
      let rest ← expectChar ']' rest
      let rest ← lineEnd? rest
      let members ←
        Members.changeAt false (fun _ inner => Members.openItem name inner) path false members
      readLines fuel (path ++ [name]) members rest
    | '[' :: rest => do
      let ((path, name), rest) ← readKey rest
      let rest ← expectChar ']' rest
      let rest ← lineEnd? rest
      let members ←
        Members.changeAt false (fun _ inner => Members.openTable name inner) path false members
      readLines fuel (path ++ [name]) members rest
    | c :: _ =>
      if c = '#' ∨ c = '\n' ∨ c = '\r' then do
        let rest ← lineEnd? text
        readLines fuel header members rest
      else do
        let ((path, name), rest) ← readKey text
        let rest ← expectChar '=' rest
        let (value, rest) ← readValue (rest.length + 1) greatestDepth (skipBlanks rest)
        let rest ← lineEnd? rest
        let members ← Members.defineIn header path name value members
        readLines fuel header members rest

/-- The table that a document is. -/
def read? (text : String) : Option ConfigValue :=
  let text := match text.toList with
    | '\ufeff' :: rest => rest
    | rest => rest
  (readLines (text.length + 2) [] [] text).bind Members.toValue?

end Toml

end CronSchedule
