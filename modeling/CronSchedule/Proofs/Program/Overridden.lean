import CronSchedule.Program
import CronSchedule.Proofs.Config.Overridden
import CronSchedule.Proofs.Text.Pieces
import CronSchedule.Zone.Database

/-!
# Runs that differ in an overridden value

A run sees its configuration through the layers (`layersOf`), and these through the values that
they come to (`carryOut_of_layersOf`). So where a layer settles a setting, a run is the same
whatever the layers below give to that setting. A flag is put over the settings only after they
have been made: it hides the value below (`settingsOver_eq`), but not that the setting cannot be
made of it, for a run without settings ends in a way that no other run does (`conclude_ne`), and
shows the cause (`failed_injective`). Both are in `run_eq_of_overridden`.
-/

namespace CronSchedule

namespace Arguments

/-- A flag gives the setting. -/
def HasFlag (arguments : Arguments) : Setting → Prop
  | .timezone => arguments.timezone.isSome
  | .logLevel => arguments.logLevel.isSome
  | .count => False
  | .output => arguments.output.isSome

/-- The settings of a run, flags included. -/
def settingsOver (arguments : Arguments) (settings : Settings) : Settings :=
  settings.override arguments.timezone arguments.logLevel arguments.output

end Arguments

namespace Program

open Config (Layer AgreeBut AreUnderstood Settles joined valueFor)

variable {s s' : Surroundings} {a : Arguments} {arguments : List String} {key : Setting}
variable {lower lower' upper layers : List Layer}
variable {values values' : Setting → Option ConfigValue} {settings settings' : Settings}

/-! ## From the layers to the outcome -/

/-- The layers of a run, the flags apart, or why they cannot be had. -/
def layersOf (s : Surroundings) (a : Arguments) : Except ConfigError (List Layer) := do
  let user ← Config.userLayer s.reader s.contentOf (userPath s.environment)
  let named ← match a.config with
    | some path => Config.namedLayer s.reader s.contentOf path
    | none => pure []
  return [Config.defaultLayer, user, named, Config.variableLayer s.environment]

/-- What a run with these settings comes to. -/
def conclude (zoneOf : String → Option Zone) (now : Instant) (command : Command)
    (settings : Settings) : Outcome :=
  match settings.engine.zone zoneOf with
  | .error error => failed ["Invalid timezone setting", error.message]
  | .ok zone =>
    match command.execute ⟨Schedule.yearLimitAt now.seconds, zone, settings.count, now⟩ with
    | .error error => failed error.messages
    | .ok report =>
      .finished (if report.isSuccess then 0 else 1)
        (printed settings.output zone report ++ "\n") ""

/-- What a run comes to whose settings have these values. -/
def outcomeOf (s : Surroundings) (a : Arguments) (values : Setting → Option ConfigValue) :
    Outcome :=
  match Config.settingsOf? values with
  | some settings => conclude s.zoneOf s.now a.command (a.settingsOver settings)
  | none => failed (ConfigError.notUnderstood (s.reader.valueCause values)).messages

theorem load_eq : Config.load s.reader s.contentOf (userPath s.environment) a.config s.environment =
    layersOf s a >>= fun layers => Config.settings s.reader (joined layers) := by
  unfold Config.load layersOf
  cases Config.userLayer s.reader s.contentOf (userPath s.environment) with
  | error error => rfl
  | ok user =>
    cases a.config with
    | none => rfl
    | some path => simp only [ok_bind, bind_assoc, pure_bind]

/-- **A run is made of the values that its layers come to**, its flags and its surroundings. -/
theorem carryOut_of_layersOf (h : layersOf s a = .ok layers) :
    carryOut s a = outcomeOf s a (valueFor (joined layers)) := by
  rw [carryOut, load_eq, h, ok_bind, outcomeOf, Config.settings]
  cases Config.settingsOf? (valueFor (joined layers)) <;> rfl

/-! ## Outcomes without settings -/

theorem errorText_cons (message : String) (causes : List String) :
    ∃ rest, errorText (message :: causes) = "Error: " ++ (message ++ rest) := by
  cases causes with
  | nil => exact ⟨"", congrArg ("Error: " ++ ·) String.append_empty.symm⟩
  | cons cause others =>
    exact ⟨"\n\nCaused by:\n" ++ indented cause, by
      rw [← String.append_assoc, ← String.append_assoc]; rfl⟩

/-- A failure is another one where its message does not begin the same. -/
theorem failed_ne {message other rest : String} {causes causes' : List String} (start : String)
    (h : message = start ++ rest) (hstart : ¬ start.toList <+: other.toList)
    (hother : ¬ other.toList <+: start.toList) :
    failed (message :: causes) ≠ failed (other :: causes') := by
  intro heq
  obtain ⟨more, hmore⟩ := errorText_cons message causes
  obtain ⟨more', hmore'⟩ := errorText_cons other causes'
  have hsame : "Error: " ++ (message ++ more) = "Error: " ++ (other ++ more') :=
    hmore.symm.trans ((Outcome.finished.inj heq).2.2.trans hmore')
  have hlist := congrArg String.toList hsame
  simp only [String.toList_append] at hlist
  have hmessage := List.append_cancel_left hlist
  rw [h, String.toList_append, List.append_assoc] at hmessage
  rcases List.prefix_or_prefix_of_prefix ⟨_, hmessage⟩ (List.prefix_append _ _) with hpre | hpre
  · exact hstart hpre
  · exact hother hpre

/-- **A run with settings does not end as one without.** -/
theorem conclude_ne (zoneOf : String → Option Zone) (now : Instant) (command : Command)
    (settings : Settings) (cause : String) :
    conclude zoneOf now command settings ≠ failed (ConfigError.notUnderstood cause).messages := by
  unfold conclude
  split
  · exact failed_ne "Invalid timezone setting" String.append_empty.symm (by decide) (by decide)
  · split
    · next error _ =>
      cases error with
      | expression text error =>
        exact failed_ne "Failed to parse cron expression '" String.append_assoc (by decide)
          (by decide)
      | instant error =>
        cases error with
        | unrecognized text =>
          exact failed_ne "Unrecognized instant '" String.append_assoc (by decide) (by decide)
        | skipped text zone =>
          have h : (InstantError.skipped text zone).message =
              "'" ++ (text ++ ("' does not exist in " ++ zone)) := by
            rw [← String.append_assoc, ← String.append_assoc]
            rfl
          exact failed_ne "'" h (by decide) (by decide)
    · intro heq
      have hcode := congrArg String.toList (Outcome.finished.inj heq).2.2
      obtain ⟨rest, hrest⟩ := errorText_cons "Failed to parse configuration" [cause]
      rw [ConfigError.messages, hrest, String.toList_append] at hcode
      cases hcode

/-- The lines of an indented text tell the text. -/
theorem indented_injective {text text' : String} (h : indented text = indented text') :
    text = text' := by
  have hsplit : ∀ text : String, Text.split '\n' (indented text).toList =
      (Text.split '\n' text.toList).map ("    ".toList ++ ·) := by
    intro text
    rw [indented, String.toList_intercalate, List.map_map, show "\n".toList = ['\n'] from rfl,
      Text.split_intercalate]
    · exact List.map_congr_left fun line _ => by
        simp only [Function.comp_apply, String.toList_append, String.toList_ofList]
    · exact List.map_eq_nil_iff.not.2 (Text.split_ne_nil _ _)
    · intro line hline
      obtain ⟨piece, hpiece, rfl⟩ := List.mem_map.1 hline
      simp only [Function.comp_apply, String.toList_append, String.toList_ofList, List.mem_append]
      exact not_or.2 ⟨by decide, Text.not_mem_of_mem_split hpiece⟩
  have hlines : Text.split '\n' text.toList = Text.split '\n' text'.toList :=
    List.map_injective_iff.2 (fun _ _ => List.append_cancel_left)
      ((hsplit text).symm.trans ((congrArg (Text.split '\n' ·.toList) h).trans (hsplit text')))
  have htext := congrArg (['\n'].intercalate ·) hlines
  simp only [Text.intercalate_split] at htext
  exact String.toList_inj.1 htext

/-- **A failure shows its cause.** -/
theorem failed_injective {message cause cause' : String}
    (h : failed [message, cause] = failed [message, cause']) : cause = cause' := by
  have hlist := congrArg String.toList (Outcome.finished.inj h).2.2
  simp only [errorText, String.toList_append] at hlist
  exact indented_injective (String.toList_inj.1 (List.append_cancel_left hlist))

/-! ## Flags -/

/-- A setting is the same where a flag gives it, or the same is below. -/
theorem getD_eq {α : Type} {convert : ConfigValue → Option α} {default value value' : α}
    {flag : Option α} {other : Setting} (hflag : other = key → flag.isSome = true)
    (h : other ≠ key → values other = values' other)
    (hvalue : Config.setting? convert default (values other) = some value)
    (hvalue' : Config.setting? convert default (values' other) = some value') :
    flag.getD value = flag.getD value' := by
  by_cases hother : other = key
  · obtain ⟨given, rfl⟩ := Option.isSome_iff_exists.1 (hflag hother)
    rfl
  · rw [h hother] at hvalue
    rw [Option.some.inj (hvalue.symm.trans hvalue')]

/-- **A flag hides the value below it.** -/
theorem settingsOver_eq (hflag : a.HasFlag key)
    (h : ∀ other, other ≠ key → values other = values' other)
    (hsettings : Config.settingsOf? values = some settings)
    (hsettings' : Config.settingsOf? values' = some settings') :
    a.settingsOver settings = a.settingsOver settings' := by
  obtain ⟨htimezone, hlevel, hcount, houtput⟩ := Config.settingsOf?_eq_some.1 hsettings
  obtain ⟨htimezone', hlevel', hcount', houtput'⟩ := Config.settingsOf?_eq_some.1 hsettings'
  have hgiven : ∀ other, other = key → a.HasFlag other := fun other hother => hother ▸ hflag
  have hcount : (none : Option Nat).getD settings.count = (none : Option Nat).getD settings'.count :=
    getD_eq (fun hother => (hgiven .count hother).elim) (h .count) hcount hcount'
  rw [Option.getD_none, Option.getD_none] at hcount
  rw [Arguments.settingsOver, Arguments.settingsOver, Settings.override, Settings.override,
    getD_eq (hgiven .timezone) (h .timezone) htimezone htimezone',
    getD_eq (hgiven .logLevel) (h .logLevel) hlevel hlevel', hcount,
    getD_eq (hgiven .output) (h .output) houtput houtput']

/-- **A flag hides a value, but not that a setting cannot be made of it, nor why.** -/
theorem outcomeOf_eq_iff (hnow : s'.now = s.now) (hzone : s'.zoneOf = s.zoneOf)
    (hflag : a.HasFlag key) (h : ∀ other, other ≠ key → values other = values' other) :
    outcomeOf s a values = outcomeOf s' a values' ↔
      (AreUnderstood values ∧ AreUnderstood values') ∨
        (¬ AreUnderstood values ∧ ¬ AreUnderstood values' ∧
          s.reader.valueCause values = s'.reader.valueCause values') := by
  simp only [← Config.exists_settingsOf?_eq_some, outcomeOf, hnow, hzone]
  cases hsettings : Config.settingsOf? values with
  | none =>
    cases hsettings' : Config.settingsOf? values' with
    | none =>
      constructor
      · exact fun heq => .inr ⟨nofun, nofun, failed_injective heq⟩
      · rintro (⟨⟨_, hnone⟩, -⟩ | ⟨-, -, hcause⟩)
        · cases hnone
        · rw [hcause]
    | some settings' =>
      refine iff_of_false (fun heq => conclude_ne _ _ _ _ _ heq.symm) ?_
      rintro (⟨⟨_, hnone⟩, -⟩ | ⟨-, hnot, -⟩)
      · cases hnone
      · exact hnot ⟨_, rfl⟩
  | some settings =>
    cases hsettings' : Config.settingsOf? values' with
    | none =>
      refine iff_of_false (conclude_ne _ _ _ _ _) ?_
      rintro (⟨-, _, hnone⟩ | ⟨hnot, -, -⟩)
      · cases hnone
      · exact hnot ⟨_, rfl⟩
    | some settings' =>
      refine iff_of_true ?_ (.inl ⟨⟨_, rfl⟩, ⟨_, rfl⟩⟩)
      simp only [settingsOver_eq hflag h hsettings hsettings']

/-! ## Two runs -/

/-- **When an overridden value makes no difference.** Two runs at one time and with the same
zones differ only in what their lower layers give to one setting. Where a layer above settles
it, the runs come to the same, as long as what is said about values is the same in both. Where
a flag gives it, they come to the same exactly when settings can be made of both configurations,
or of neither and the same is said about it. -/
theorem run_eq_of_overridden (hnow : s'.now = s.now) (hzone : s'.zoneOf = s.zoneOf)
    (hlower : List.Forall₂ (AgreeBut key) lower lower')
    (hlayers : ∀ a, Arguments.read arguments = .ok a →
      layersOf s a = .ok (lower ++ upper) ∧ layersOf s' a = .ok (lower' ++ upper)) :
    ((∃ entry ∈ upper.flatten, Settles key (lower.flatten ++ lower'.flatten) entry) →
      s'.reader.valueCause = s.reader.valueCause → run s arguments = run s' arguments) ∧
    (∀ a, Arguments.read arguments = .ok a → a.HasFlag key →
      (run s arguments = run s' arguments ↔
        (AreUnderstood (valueFor (joined (lower ++ upper))) ∧
          AreUnderstood (valueFor (joined (lower' ++ upper)))) ∨
        (¬ AreUnderstood (valueFor (joined (lower ++ upper))) ∧
          ¬ AreUnderstood (valueFor (joined (lower' ++ upper))) ∧
          s.reader.valueCause (valueFor (joined (lower ++ upper))) =
            s'.reader.valueCause (valueFor (joined (lower' ++ upper)))))) := by
  have hrun : ∀ a, Arguments.read arguments = .ok a →
      run s arguments = outcomeOf s a (valueFor (joined (lower ++ upper))) ∧
        run s' arguments = outcomeOf s' a (valueFor (joined (lower' ++ upper))) := by
    intro a hread
    obtain ⟨h, h'⟩ := hlayers a hread
    rw [run, run, hread, ← carryOut_of_layersOf h, ← carryOut_of_layersOf h']
    exact ⟨rfl, rfl⟩
  constructor
  · intro h hcause
    cases hread : Arguments.read arguments with
    | error error => cases error <;> simp only [run, hread]
    | ok a =>
      obtain ⟨h₁, h₂⟩ := hrun a hread
      rw [h₁, h₂, ← Config.valueFor_joined_eq hlower h]
      simp only [outcomeOf, hnow, hzone, hcause]
  · intro a hread hflag
    obtain ⟨h₁, h₂⟩ := hrun a hread
    rw [h₁, h₂]
    exact outcomeOf_eq_iff hnow hzone hflag fun other hother =>
      Config.valueFor_joined_of_ne hlower hother

/-- A reader of two formats, which names the form of output that it does not know. -/
def plainReader : Config.Reader where
  formats := [.toml, .json]
  loadCause path _ := path
  valueCause values :=
    match values .output with
    | some (.text name) => s!"enum OutputFormat does not have variant constructor {name}"
    | _ => "invalid type"

/-- A user with a configuration file, and a variable that names the form of output. -/
def atHome (content output : String) : Surroundings where
  environment := [("HOME", "/home"), ("CRONCTL_OUTPUT", output)]
  contentOf path := if path = "/home/.config/cronctl/config.toml" then some content else none
  now := ⟨0, 0⟩
  zoneOf := Zone.ofName?
  reader := plainReader

theorem userPath_atHome (content output : String) :
    userPath (atHome content output).environment = "/home/.config/cronctl/config" := by
  simp [userPath, configHome, configHome.ownHome, atHome, List.lookup_cons]

theorem locate?_atHome (content output : String) :
    Config.locate? plainReader.formats (atHome content output).contentOf
      "/home/.config/cronctl/config" = some (some .toml, content) := by
  have hname : String.ofList (Config.dropTail
      "/home/.config/cronctl/config".toList.reverse).reverse = "/home/.config/cronctl/config" := by
    decide +kernel
  have hfinal : (Config.dropTail "/home/.config/cronctl/config".toList.reverse).takeWhile
      (· != '/') ∉ [[], ['.'], ['.', '.']] := by
    decide +kernel
  simp only [Config.locate?, Config.candidates, hname, if_neg hfinal, if_true]
  simp [plainReader, FileFormat.toml, FileFormat.json, atHome]

theorem variableLayer_atHome (content output : String) :
    Config.variableLayer (atHome content output).environment =
      [("output", .ofVariable output)] := by
  have hhome : Config.variableStart.toList.isPrefixOf
      (ConfigValue.foldCase "HOME").toList = false := by
    decide +kernel
  have houtput : Config.variableStart.toList.isPrefixOf
      (ConfigValue.foldCase "CRONCTL_OUTPUT").toList = true := by
    decide +kernel
  have hname : String.ofList ((ConfigValue.foldCase "CRONCTL_OUTPUT").toList.drop
      Config.variableStart.length) = "output" := by
    decide +kernel
  simp only [Config.variableLayer, atHome, List.filterMap_cons, List.filterMap_nil, hhome, houtput,
    hname, Bool.false_eq_true, if_false, if_true]

theorem layersOf_atHome {content output : String} {user : Layer}
    (huser : FileFormat.toml.layer? content = some user) (hconfig : a.config = none) :
    layersOf (atHome content output) a =
      .ok [Config.defaultLayer, user, [], [("output", .ofVariable output)]] := by
  have hlocate : Config.locate? (atHome content output).reader.formats
      (atHome content output).contentOf "/home/.config/cronctl/config" =
        some (some .toml, content) :=
    locate?_atHome content output
  simp only [layersOf, userPath_atHome, Config.userLayer, hlocate, Config.Reader.layer, huser,
    hconfig, ok_bind, pure_bind, variableLayer_atHome]
  rfl

theorem exists_layer (content : String) (h : (FileFormat.toml.layer? content).any
    (fun user => user.all fun entry => Config.keyOf entry.1 == "output") = true) :
    ∃ user, FileFormat.toml.layer? content = some user ∧
      ∀ entry ∈ user, Config.keyOf entry.1 = Setting.output.name := by
  obtain ⟨user, huser, hall⟩ := (Option.any_eq_true _ _).1 h
  exact ⟨user, huser, fun entry hentry => beq_iff_eq.1 (List.all_eq_true.1 hall entry hentry)⟩

theorem layer?_empty : FileFormat.toml.layer? "" = some [] := by
  have h : (FileFormat.toml.layer? "").any List.isEmpty = true := by decide +kernel
  obtain ⟨user, huser, hempty⟩ := (Option.any_eq_true _ _).1 h
  rw [huser, List.isEmpty_iff.1 hempty]

/-- The layers of two users without a file who name different forms of output. -/
theorem agreeBut_atHome (output output' : String) : List.Forall₂ (AgreeBut .output)
    [Config.defaultLayer, [], [], [("output", .ofVariable output)]]
    [Config.defaultLayer, [], [], [("output", .ofVariable output')]] := by
  have hname : Config.keyOf "output" = Setting.output.name := by decide +kernel
  have hkey : ∀ output, ∀ entry ∈ [("output", ConfigValue.ofVariable output)],
      Config.keyOf entry.1 = Setting.output.name := by
    intro output entry hentry
    rw [List.mem_singleton.1 hentry, hname]
  exact .cons rfl (.cons rfl (.cons rfl (.cons
    (Config.agreeBut_of_forall (hkey output) (hkey output')) .nil)))

/-- The file gives a number or an unknown name for the output, over which a variable is put; and
a variable gives one of two unknown names, over which a flag is put. -/
theorem run_eq_of_overridden_byVariable :
    run (atHome "output = 7" "json") ["check", "0 0 0 1 * ?"] =
      run (atHome "output = 'yaml'" "json") ["check", "0 0 0 1 * ?"] ∧
    run (atHome "" "yaml") ["--output", "json", "check", "0 0 0 1 * ?"] ≠
      run (atHome "" "xml") ["--output", "json", "check", "0 0 0 1 * ?"] := by
  constructor
  · have hread : Arguments.read ["check", "0 0 0 1 * ?"] =
        .ok ⟨none, none, none, none, .check "0 0 0 1 * ?"⟩ := by
      decide +kernel
    obtain ⟨user, huser, hkeys⟩ := exists_layer "output = 7" (by decide +kernel)
    obtain ⟨user', huser', hkeys'⟩ := exists_layer "output = 'yaml'" (by decide +kernel)
    have hlower : List.Forall₂ (AgreeBut .output) [Config.defaultLayer, user, []]
        [Config.defaultLayer, user', []] :=
      .cons rfl (.cons (Config.agreeBut_of_forall hkeys hkeys') (.cons rfl .nil))
    have hlayers : ∀ a, Arguments.read ["check", "0 0 0 1 * ?"] = .ok a →
        layersOf (atHome "output = 7" "json") a = .ok ([Config.defaultLayer, user, []] ++
          [[("output", .ofVariable "json")]]) ∧
        layersOf (atHome "output = 'yaml'" "json") a = .ok ([Config.defaultLayer, user', []] ++
          [[("output", .ofVariable "json")]]) := by
      intro a h
      obtain rfl := Except.ok.inj (hread.symm.trans h)
      exact ⟨layersOf_atHome huser rfl, layersOf_atHome huser' rfl⟩
    have hname : Config.keyOf "output" = Setting.output.name := by decide +kernel
    have hpath : (Config.pathOf "output").tail = [] := by decide +kernel
    have hvalue : (ConfigValue.ofVariable "json").isTable = false := by decide +kernel
    have hnow : (atHome "output = 'yaml'" "json").now = (atHome "output = 7" "json").now := rfl
    have hzone : (atHome "output = 'yaml'" "json").zoneOf = (atHome "output = 7" "json").zoneOf := rfl
    have hcause : (atHome "output = 'yaml'" "json").reader.valueCause =
        (atHome "output = 7" "json").reader.valueCause := rfl
    refine (run_eq_of_overridden hnow hzone hlower hlayers).1
      ⟨("output", .ofVariable "json"), ?_, ?_⟩ hcause
    · exact List.mem_flatten.2 ⟨_, List.mem_singleton_self _, List.mem_singleton_self _⟩
    · exact Config.settles_of_replaces hname ⟨hpath, hvalue⟩
  · have hread : Arguments.read ["--output", "json", "check", "0 0 0 1 * ?"] =
        .ok ⟨none, none, none, some .json, .check "0 0 0 1 * ?"⟩ := by
      decide +kernel
    have hlayers : ∀ a, Arguments.read ["--output", "json", "check", "0 0 0 1 * ?"] = .ok a →
        layersOf (atHome "" "yaml") a = .ok ([Config.defaultLayer, [], [],
          [("output", .ofVariable "yaml")]] ++ []) ∧
        layersOf (atHome "" "xml") a = .ok ([Config.defaultLayer, [], [],
          [("output", .ofVariable "xml")]] ++ []) := by
      intro a h
      obtain rfl := Except.ok.inj (hread.symm.trans h)
      exact ⟨layersOf_atHome layer?_empty rfl, layersOf_atHome layer?_empty rfl⟩
    have hcause : plainReader.valueCause (valueFor (joined ([Config.defaultLayer, [], [],
          [("output", .ofVariable "yaml")]] ++ []))) ≠
        plainReader.valueCause (valueFor (joined ([Config.defaultLayer, [], [],
          [("output", .ofVariable "xml")]] ++ []))) := by
      decide +kernel
    have hwrong : ((valueFor (joined ([Config.defaultLayer, [], [],
        [("output", .ofVariable "yaml")]] ++ [])) .output).all
          Setting.output.understands) = false := by
      decide +kernel
    have hnow : (atHome "" "xml").now = (atHome "" "yaml").now := rfl
    have hzone : (atHome "" "xml").zoneOf = (atHome "" "yaml").zoneOf := rfl
    intro heq
    rcases ((run_eq_of_overridden hnow hzone (agreeBut_atHome "yaml" "xml") hlayers).2 _ hread rfl).1
      heq with ⟨hall, -⟩ | ⟨-, -, hsame⟩
    · rw [Option.all_eq_false] at hwrong
      obtain ⟨value, hvalue, hnot⟩ := hwrong
      exact absurd (hall .output value hvalue) (by simp [hnot])
    · exact hcause hsame

/-- **A flag does not hide that the value below it cannot be understood**: a variable names an
unknown output, over which the flag is put. -/
theorem not_forall_run_eq_of_overridden : ¬ ∀ (key : Setting) (s s' : Surroundings)
    (arguments : List String) (a : Arguments) (lower lower' upper : List Layer),
    s'.now = s.now → s'.zoneOf = s.zoneOf → s'.reader = s.reader →
    List.Forall₂ (AgreeBut key) lower lower' →
    Arguments.read arguments = .ok a →
    layersOf s a = .ok (lower ++ upper) → layersOf s' a = .ok (lower' ++ upper) →
    (a.HasFlag key ∨
      ∃ entry ∈ upper.flatten, Settles key (lower.flatten ++ lower'.flatten) entry) →
    run s arguments = run s' arguments := by
  intro h
  have hread : Arguments.read ["--output", "json", "check", "0 0 0 1 * ?"] =
      .ok ⟨none, none, none, some .json, .check "0 0 0 1 * ?"⟩ := by
    decide +kernel
  have hne : run (atHome "" "json") ["--output", "json", "check", "0 0 0 1 * ?"] ≠
      run (atHome "" "yaml") ["--output", "json", "check", "0 0 0 1 * ?"] := by
    decide +kernel
  refine hne (h .output (atHome "" "json") (atHome "" "yaml") _ _ _ _ [] rfl rfl rfl
    (agreeBut_atHome "json" "yaml") hread ?_ ?_ (.inl ?_))
  · rw [List.append_nil]
    exact layersOf_atHome layer?_empty rfl
  · rw [List.append_nil]
    exact layersOf_atHome layer?_empty rfl
  · rfl

end Program

end CronSchedule
