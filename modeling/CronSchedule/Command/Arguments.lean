import CronSchedule.Command.Basic
import CronSchedule.Settings.Basic

/-!
# The arguments of the command line

Arguments are options, which begin with a hyphen, and the words between them.
The first word names a command, and the rest belong to it. Some options may stand
before the command as well as after it, and then the later one counts; at one
place none may be given twice. `Arguments.read` takes the arguments one by one:
`Scan` is what has been understood so far, and an option whose value is the next
argument is settled only when the argument after that is looked at.
-/

namespace CronSchedule

/-- An option of the command line. -/
inductive Flag
  | config
  | logLevel
  | timezone
  | output
  | after
  | before
  | count
  | help
  | version
deriving DecidableEq, Repr

/-- Why arguments are not understood, or not acted upon. -/
inductive UsageError
  /-- A word that the command needs is missing. -/
  | missingArgument
  /-- There is no such option, or there are too many words. -/
  | unknownArgument
  /-- There is no such command. -/
  | unknownCommand
  /-- An option has no value, or none of its choices. -/
  | invalidValue
  /-- The value of an option is not a number. -/
  | notANumber
  /-- An option is given a value that takes none. -/
  | needlessValue
  /-- An option is given twice. -/
  | repeated
  /-- Options are given, but no command. -/
  | missingCommand
  /-- Nothing is given at all. -/
  | nothingGiven
  /-- The user asks for help. -/
  | helpWanted
  /-- The user asks for the version. -/
  | versionWanted
deriving DecidableEq, Repr

namespace Flag

/-- The name after two hyphens. -/
def longName : Flag → String
  | config => "config"
  | logLevel => "log-level"
  | timezone => "tz"
  | output => "output"
  | after => "after"
  | before => "before"
  | count => "count"
  | help => "help"
  | version => "version"

/-- The letter after one hyphen. -/
def letter? : Flag → Option Char
  | config => some 'c'
  | logLevel => some 'l'
  | timezone => none
  | output => some 'o'
  | after => some 'a'
  | before => some 'b'
  | count => some 'n'
  | help => some 'h'
  | version => some 'V'

/-- What is done where the option takes no value. -/
def request? : Flag → Option UsageError
  | help => some .helpWanted
  | version => some .versionWanted
  | _ => none

/-- The options that may stand before and after the command. -/
def shared : List Flag := [config, logLevel, timezone, output, help]

end Flag

namespace Arguments

/-- A number of fire times. -/
def readCount? (text : String) : Option Nat :=
  Text.wordOf? text.toList

/-- What may stand at one place of the command line. -/
structure Place where
  flags : List Flag
  /-- How many words are needed there; no more may be given. -/
  words : Nat
  /-- The commands that the first word may name, if it names one. -/
  commands : List String

/-- What has been understood of the arguments of one place. -/
structure Scan where
  /-- The options with their values, the latest first. -/
  options : List (Flag × String) := []
  /-- An option that is not settled yet, with its value if that has been given. -/
  pending : Option (Flag × Option String) := none
  words : List String := []
  /-- Everything from here on is a word. -/
  onlyWords : Bool := false

namespace Scan

/-- The options with one more, whose value must be a proper one. -/
def give (scan : Scan) (flag : Flag) (value : String) : Except UsageError Scan := do
  if scan.options.any (·.1 == flag) then
    .error .repeated
  if flag = .output ∧ (OutputFormat.ofName? value).isNone then
    .error .invalidValue
  if flag = .count ∧ (readCount? value).isNone then
    .error .notANumber
  return { scan with options := (flag, value) :: scan.options }

/-- The option that waits for it is settled. -/
def settle (scan : Scan) : Except UsageError Scan :=
  match scan.pending with
  | none => .ok scan
  | some (_, none) => .error .invalidValue
  | some (flag, some value) => { scan with pending := none }.give flag value

/-- An option waits for its value. -/
def isWaiting (scan : Scan) : Bool :=
  match scan.pending with
  | some (_, none) => true
  | _ => false

/-- The option comes, with the value that is attached to it, if one is. -/
def take (scan : Scan) (flag : Flag) (attached : Option String) : Except UsageError Scan := do
  let scan ← scan.settle
  match attached with
  | some value => scan.give flag value
  | none => return { scan with pending := some (flag, none) }

/-- An argument that begins with two hyphens. -/
def takeLong (place : Place) (scan : Scan) (text : List Char) : Except UsageError Scan :=
  let name := String.ofList (text.takeWhile (· != '='))
  let attached := match text.dropWhile (· != '=') with
    | [] => none
    | _ :: value => some (String.ofList value)
  match place.flags.find? (·.longName == name) with
  | none => .error .unknownArgument
  | some flag =>
    match flag.request?, attached with
    | some _, some _ => .error .needlessValue
    | some request, none => do
      let _ ← scan.settle
      .error request
    | none, attached => scan.take flag attached

/-- An argument that begins with one hyphen. No more than one of its letters is an
option with a value, and what follows that letter is the value. -/
def takeShort (place : Place) (scan : Scan) (text : List Char) : Except UsageError Scan :=
  match text with
  | [] => .ok scan
  | letter :: rest =>
    match place.flags.find? (·.letter? == some letter) with
    | none => .error .unknownArgument
    | some flag =>
      match flag.request?, rest with
      | some request, _ => do
        let _ ← scan.settle
        .error request
      | none, [] => scan.take flag none
      | none, '=' :: value => scan.take flag (some (String.ofList value))
      | none, value => scan.take flag (some (String.ofList value))

/-- A word that is no option. -/
def takeWord (place : Place) (scan : Scan) (word : String) : Except UsageError Scan := do
  if scan.words.length < place.words then
    let scan ← scan.settle
    return { scan with words := scan.words ++ [word] }
  else if ¬ place.commands.isEmpty ∧ ¬ (scan.onlyWords ∧ word ∈ place.commands) then
    .error .unknownCommand
  else
    .error .unknownArgument

/-- One argument that names no command. -/
def takeArgument (place : Place) (scan : Scan) (argument : String) : Except UsageError Scan :=
  if scan.onlyWords then scan.takeWord place argument
  else match argument.toList with
    | ['-', '-'] => .ok { scan with onlyWords := true }
    | '-' :: '-' :: text => scan.takeLong place text
    | '-' :: c :: text => scan.takeShort place (c :: text)
    | _ =>
      match scan.pending with
      | some (flag, none) => .ok { scan with pending := some (flag, some argument) }
      | _ => scan.takeWord place argument

/-- The arguments up to the name of a command, and those after it. -/
def takeAll (place : Place) (scan : Scan) :
    List String → Except UsageError (Scan × Option (String × List String))
  | [] => .ok (scan, none)
  | argument :: later =>
    if ¬ scan.onlyWords ∧ ¬ scan.isWaiting ∧ argument ∈ place.commands then
      .ok (scan, some (argument, later))
    else do
      let scan ← scan.takeArgument place argument
      takeAll place scan later

/-- The value of an option. -/
def value? (scan : Scan) (flag : Flag) : Option String :=
  scan.options.lookup flag

end Scan

/-- The commands by name, with the options that only they have and the number of
words that they need. -/
def commands : List (String × List Flag × Nat) := [
  ("check", [], 1),
  ("explain", [], 1),
  ("next", [.after, .count], 1),
  ("prev", [.before], 1),
  ("matches", [], 2),
  ("invalid-after", [.after], 1)]

/-- The command that explains the others. -/
def helpCommand : String := "help"

/-- What stands before the command. -/
def outer : Place where
  flags := Flag.shared ++ [.version]
  words := 0
  commands := helpCommand :: commands.map (·.1)

/-- What the user gets who asks for help about these commands. -/
def helpAbout : List String → UsageError
  | [] => .helpWanted
  | [name] => if name ∈ outer.commands then .helpWanted else .unknownCommand
  | _ => .unknownCommand

/-- The command that its name, words and options make. -/
def command? (name : String) (scan : Scan) : Option Command :=
  match name, scan.words with
  | "check", [expression] => some (.check expression)
  | "explain", [expression] => some (.explain expression)
  | "next", [expression] =>
    some (.next expression (scan.value? .after) ((scan.value? .count).bind readCount?))
  | "prev", [expression] => some (.previous expression (scan.value? .before))
  | "matches", [expression, instant] => some (.satisfied expression instant)
  | "invalid-after", [expression] => some (.firstMiss expression (scan.value? .after))
  | _, _ => none

end Arguments

/-- The arguments, understood. -/
structure Arguments where
  config : Option String
  logLevel : Option String
  timezone : Option String
  output : Option OutputFormat
  command : Command
deriving DecidableEq, Repr

namespace Arguments

/-- What the arguments say. -/
def read (arguments : List String) : Except UsageError Arguments := do
  let (before, found) ← Scan.takeAll outer {} arguments
  match found with
  | none =>
    let before ← before.settle
    .error (if before.options.isEmpty then .nothingGiven else .missingCommand)
  | some (name, later) =>
    if name = helpCommand then
      .error (helpAbout later)
    let some (flags, words) := commands.lookup name | .error .unknownCommand
    let (after, _) ← Scan.takeAll ⟨Flag.shared ++ flags, words, []⟩ {} later
    let after ← after.settle
    let some command := command? name after | .error .missingArgument
    let before ← before.settle
    let value? (flag : Flag) : Option String := after.value? flag <|> before.value? flag
    return {
      config := value? .config
      logLevel := value? .logLevel
      timezone := value? .timezone
      output := (value? .output).bind OutputFormat.ofName?
      command := command }

end Arguments

end CronSchedule
