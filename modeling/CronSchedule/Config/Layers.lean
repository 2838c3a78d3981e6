import CronSchedule.Config.Path
import CronSchedule.Json.Reader
import CronSchedule.Settings.Basic
import CronSchedule.Toml.Reader

/-!
# Layers of configuration

Settings come from several sources, of which later ones override earlier ones:
the defaults, the configuration file of the user, a file named on the command
line, and environment variables. The sources are joined first (`joined`), name by
name, and only the result is turned into `Settings`, so a value that is overridden
need not even have the right type. Which formats files may have, and the wording of
complaints, belong to the `Reader` that configurations are read with; the formats
`FileFormat.toml` and `FileFormat.json` are two that it may have.
-/

namespace CronSchedule

/-- Something that can be set. -/
inductive Setting
  | timezone
  | logLevel
  | count
  | output
deriving DecidableEq, Repr

namespace Setting

/-- The name that sources of configuration know a setting by. -/
def name : Setting → String
  | timezone => "timezone"
  | logLevel => "log_level"
  | count => "count"
  | output => "output"

/-- What a setting looks at in a value. A form of output may be named by a table, but no
other setting can be made of a table or a list, whatever is in it. -/
def look : Setting → ConfigValue → ConfigValue
  | output, value => value
  | _, .table _ => .table []
  | _, .list _ => .list []
  | _, value => value

end Setting

/-- Why there are no settings, and what the reader of the configuration says about it. -/
inductive ConfigError
  /-- A file is missing or is no document of its format. -/
  | notLoaded (cause : String)
  /-- A value does not have the type of its setting. -/
  | notUnderstood (cause : String)
deriving DecidableEq, Repr

namespace ConfigError

/-- The wording of the error, then its cause. -/
def messages : ConfigError → List String
  | notLoaded cause => ["Failed to load configuration", cause]
  | notUnderstood cause => ["Failed to parse configuration", cause]

end ConfigError

/-- What one source says. -/
abbrev Config.Layer := List (String × ConfigValue)

/-- A format of configuration files. -/
structure FileFormat where
  /-- What the names of the files may end in, after a point. -/
  extensions : List String
  /-- The values that a text in the format gives. -/
  read? : String → Option Config.Layer

namespace FileFormat

/-- What a file name has after its last point, unless it begins with that. -/
def extensionOf (path : String) : String :=
  let name := (path.toList.reverse.takeWhile (· != '/'))
  let extension := name.takeWhile (· != '.')
  if extension.length + 1 < name.length then String.ofList extension.reverse else ""

/-- The format of a file, by its name. -/
def ofPath? (formats : List FileFormat) (path : String) : Option FileFormat :=
  formats.find? (·.extensions.contains (extensionOf path))

/-- The text of a file without the mark of byte order that it may begin with. -/
def withoutMark (content : String) : String :=
  match content.toList with
  | '\ufeff' :: rest => String.ofList rest
  | _ => content

/-- The layer that the content of a file gives. -/
def layer? (format : FileFormat) (content : String) : Option Config.Layer :=
  format.read? (withoutMark content)

/-- The layer of a document, which must be a table. -/
def members? : Option ConfigValue → Option Config.Layer
  | some (.table members) => some members
  | _ => none

/-- The format TOML. -/
def toml : FileFormat := ⟨["toml"], fun content => members? (Toml.read? content)⟩

/-- The format JSON. -/
def json : FileFormat :=
  ⟨["json"], fun content => members? ((Json.read? content).map ConfigValue.ofJson)⟩

end FileFormat

namespace Config

/-- What configurations are read with. -/
structure Reader where
  /-- The formats of files, in the order in which they are tried. -/
  formats : List FileFormat
  /-- What is said of a path from which no layer can be read, and of the content of the
  file if there is one. -/
  loadCause : String → Option String → String
  /-- What is said of the values that there are for the settings, when settings cannot be
  made of them. It may tell which source a value comes from, so two runs need not have
  the same wording. -/
  valueCause : (Setting → Option ConfigValue) → String

/-- A path, written backwards, without what may follow the name that it ends in:
slashes, and single points after them. -/
def dropTail : List Char → List Char
  | '/' :: rest => dropTail rest
  | '.' :: '/' :: rest => dropTail rest
  | rest => rest

/-- The files that a path may mean: the one of that very name, or one with the
extension of a format added. A path that ends in a slash names no file, but one
without that end may be meant; one that ends in no name cannot have an extension. -/
def candidates (formats : List FileFormat) (path : String) :
    List (String × Option FileFormat) :=
  let trimmed := dropTail path.toList.reverse
  let name := String.ofList trimmed.reverse
  let final := trimmed.takeWhile (· != '/')
  let extended :=
    if final ∈ [[], ['.'], ['.', '.']] then []
    else formats.flatMap fun format =>
      format.extensions.map fun extension => (name ++ "." ++ extension, some format)
  if name = path then (path, FileFormat.ofPath? formats path) :: extended else extended

/-- The first file among the candidates, if there is one, with its format if that is
known; `contentOf` tells what is in a file. -/
def locate? (formats : List FileFormat) (contentOf : String → Option String) (path : String) :
    Option (Option FileFormat × String) :=
  (candidates formats path).findSome? fun (path, format) => (contentOf path).map (format, ·)

/-- The layer of the file at a path. -/
def Reader.layer (reader : Reader) (path : String) (format : FileFormat) (content : String) :
    Except ConfigError Layer :=
  match format.layer? content with
  | some layer => .ok layer
  | none => .error (.notLoaded (reader.loadCause path (some content)))

/-- The layer of the user's file, which may be missing. -/
def userLayer (reader : Reader) (contentOf : String → Option String) (path : String) :
    Except ConfigError Layer :=
  match locate? reader.formats contentOf path with
  | some (some format, content) => reader.layer path format content
  | _ => .ok []

/-- The layer of the file that the command line names. -/
def namedLayer (reader : Reader) (contentOf : String → Option String) (path : String) :
    Except ConfigError Layer :=
  match locate? reader.formats contentOf path with
  | some (some format, content) => reader.layer path format content
  | some (none, content) => .error (.notLoaded (reader.loadCause path (some content)))
  | none => .error (.notLoaded (reader.loadCause path none))

/-- What the names of the environment variables begin with, in any case. -/
def variableStart : String := "cronctl_"

/-- The layer of the environment variables. -/
def variableLayer (environment : List (String × String)) : Layer :=
  environment.filterMap fun (name, value) =>
    let name := (ConfigValue.foldCase name).toList
    if variableStart.toList.isPrefixOf name then
      some (String.ofList (name.drop variableStart.length), .ofVariable value)
    else none

/-- The layer of the defaults. -/
def defaultLayer : Layer :=
  let settings : Settings := {}
  [(Setting.timezone.name, .text settings.timezone),
    (Setting.logLevel.name, .text settings.logLevel),
    (Setting.count.name, .int settings.count),
    (Setting.output.name, .text settings.output.name)]

/-- All layers in one, the later ones over the earlier ones. -/
def joined (layers : List Layer) : ConfigValue :=
  layers.flatten.foldl (fun target (name, value) => setAt value (pathOf name) target) (.table [])

/-- What there is for a setting in a configuration. -/
def valueFor (config : ConfigValue) (key : Setting) : Option ConfigValue :=
  (config.members.lookup key.name).map key.look

/-- One setting from its value; the default where there is none. -/
def setting? {α : Type} (convert : ConfigValue → Option α) (default : α) :
    Option ConfigValue → Option α
  | none => some default
  | some value => convert value

/-- The form of output that a value names, in any case. -/
def toOutput? (value : ConfigValue) : Option OutputFormat := do
  OutputFormat.ofName? (← value.toName?).toLower

/-- The settings that these values make, if each one has the right type. -/
def settingsOf? (values : Setting → Option ConfigValue) : Option Settings := do
  let default : Settings := {}
  let timezone ← setting? ConfigValue.toText? default.timezone (values .timezone)
  let logLevel ← setting? ConfigValue.toText? default.logLevel (values .logLevel)
  let count ← setting? ConfigValue.toCount? default.count (values .count)
  let output ← setting? toOutput? default.output (values .output)
  return { timezone, logLevel, count, output }

/-- The settings that the joined layers give. -/
def settings (reader : Reader) (config : ConfigValue) : Except ConfigError Settings :=
  match settingsOf? (valueFor config) with
  | some settings => .ok settings
  | none => .error (.notUnderstood (reader.valueCause (valueFor config)))

/-- The settings that a user has: `userPath` is the user's file without its extension,
and `named` the file that the command line names. -/
def load (reader : Reader) (contentOf : String → Option String) (userPath : String)
    (named : Option String) (environment : List (String × String)) :
    Except ConfigError Settings := do
  let user ← userLayer reader contentOf userPath
  let named ← match named with
    | some path => namedLayer reader contentOf path
    | none => pure []
  settings reader (joined [defaultLayer, user, named, variableLayer environment])

end Config

end CronSchedule
