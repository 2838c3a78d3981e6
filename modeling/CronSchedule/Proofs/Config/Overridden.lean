import CronSchedule.Proofs.Config.Joined
import CronSchedule.Proofs.Expression.Cursor

/-!
# Values that are overridden

A setting is made of the entries with its name, so layers that differ only in what they give
to one setting (`AgreeBut`) have the same for the other settings (`valueFor_joined_of_ne`).
They have the same for that one too as soon as a later entry settles it: after the entry the
two values are equal, or both are tables or both are lists, of which no setting but the output
looks at more than that (`Indistinct`). Then there is nothing to tell the layers apart, neither
by the settings that come of them nor by a complaint about them (`valueFor_joined_eq`).
-/

namespace CronSchedule

namespace Setting

variable {key other : Setting}

theorem name_injective (h : key.name = other.name) : key = other := by
  cases key <;> cases other <;> first | rfl | exact absurd h (by decide)

/-- The setting can be made of a value. -/
def understands : Setting → ConfigValue → Bool
  | timezone, value | logLevel, value => value.toText?.isSome
  | count, value => value.toCount?.isSome
  | output, value => (Config.toOutput? value).isSome

theorem look_output : output.look = id := rfl

theorem look_table (hkey : key ≠ output) (members : List (String × ConfigValue)) :
    key.look (.table members) = .table [] := by
  cases key <;> first | rfl | exact absurd rfl hkey

theorem look_list (hkey : key ≠ output) (items : List ConfigValue) :
    key.look (.list items) = .list [] := by
  cases key <;> first | rfl | exact absurd rfl hkey

end Setting

namespace Config

variable {key other : Setting} {entry : String × ConfigValue} {config config' : ConfigValue}
variable {below below' : Option ConfigValue} {layer layer' : Layer}
variable {lower lower' upper : List Layer} {settings : Settings}
variable {values : Setting → Option ConfigValue}

/-! ## The settings that values make -/

/-- Each setting can be made of its value, if there is one. -/
def AreUnderstood (values : Setting → Option ConfigValue) : Prop :=
  ∀ key : Setting, ∀ value ∈ values key, key.understands value = true

theorem exists_setting?_eq_some {α : Type} {convert : ConfigValue → Option α} {default : α}
    {value : Option ConfigValue} : (∃ a, setting? convert default value = some a) ↔
      ∀ given ∈ value, (convert given).isSome = true := by
  cases value with
  | none => simp [setting?]
  | some given => simp [setting?, Option.isSome_iff_exists]

/-- **The settings do not depend on what they do not look at.** -/
theorem settingsOf?_valueFor (config : ConfigValue) :
    settingsOf? (valueFor config) = settingsOf? fun key => config.members.lookup key.name := by
  have hlook : ∀ {α : Type} (convert : ConfigValue → Option α) (default : α) (key : Setting),
      (∀ value, convert (key.look value) = convert value) →
      setting? convert default (valueFor config key) =
        setting? convert default (config.members.lookup key.name) := by
    intro α convert default key hconvert
    unfold valueFor
    cases config.members.lookup key.name with
    | none => rfl
    | some value => exact hconvert value
  simp only [settingsOf?]
  rw [hlook _ _ .timezone fun value => by cases value <;> rfl,
    hlook _ _ .logLevel fun value => by cases value <;> rfl,
    hlook _ _ .count fun value => by cases value <;> rfl, hlook _ _ .output fun _ => rfl]

/-- What settings are made of. -/
theorem settingsOf?_eq_some : settingsOf? values = some settings ↔
    setting? ConfigValue.toText? "UTC" (values .timezone) = some settings.timezone ∧
    setting? ConfigValue.toText? "warn" (values .logLevel) = some settings.logLevel ∧
    setting? ConfigValue.toCount? 5 (values .count) = some settings.count ∧
    setting? toOutput? .text (values .output) = some settings.output := by
  simp only [settingsOf?, Option.bind_eq_bind, Option.bind_eq_some_iff, Option.pure_def,
    Option.some.injEq]
  constructor
  · rintro ⟨_, htimezone, _, hlevel, _, hcount, _, houtput, rfl⟩
    exact ⟨htimezone, hlevel, hcount, houtput⟩
  · rintro ⟨htimezone, hlevel, hcount, houtput⟩
    exact ⟨_, htimezone, _, hlevel, _, hcount, _, houtput, rfl⟩

/-- **There are settings when each one can be understood.** -/
theorem exists_settingsOf?_eq_some :
    (∃ settings, settingsOf? values = some settings) ↔ AreUnderstood values := by
  simp only [settingsOf?_eq_some]
  constructor
  · rintro ⟨settings, htimezone, hlevel, hcount, houtput⟩ key
    cases key with
    | timezone => exact exists_setting?_eq_some.1 ⟨_, htimezone⟩
    | logLevel => exact exists_setting?_eq_some.1 ⟨_, hlevel⟩
    | count => exact exists_setting?_eq_some.1 ⟨_, hcount⟩
    | output => exact exists_setting?_eq_some.1 ⟨_, houtput⟩
  · intro h
    obtain ⟨timezone, htimezone⟩ := exists_setting?_eq_some.2 (h .timezone)
    obtain ⟨logLevel, hlevel⟩ := exists_setting?_eq_some.2 (h .logLevel)
    obtain ⟨count, hcount⟩ := exists_setting?_eq_some.2 (h .count)
    obtain ⟨output, houtput⟩ := exists_setting?_eq_some.2 (h .output)
    exact ⟨⟨timezone, logLevel, count, output⟩, htimezone, hlevel, hcount, houtput⟩

/-! ## Layers that differ in one setting -/

/-- Two layers give the same but for one setting. -/
def AgreeBut (key : Setting) (layer layer' : Layer) : Prop :=
  layer.filter (keyOf ·.1 ≠ key.name) = layer'.filter (keyOf ·.1 ≠ key.name)

theorem agreeBut_of_forall (h : ∀ entry ∈ layer, keyOf entry.1 = key.name)
    (h' : ∀ entry ∈ layer', keyOf entry.1 = key.name) : AgreeBut key layer layer' := by
  rw [AgreeBut, List.filter_eq_nil_iff.2 (by simpa using h),
    List.filter_eq_nil_iff.2 (by simpa using h')]

theorem agreeBut_flatten (h : List.Forall₂ (AgreeBut key) lower lower') :
    AgreeBut key lower.flatten lower'.flatten := by
  induction h with
  | nil => rfl
  | cons hlayer _ ih =>
    unfold AgreeBut at hlayer ih ⊢
    rw [List.flatten_cons, List.flatten_cons, List.filter_append, List.filter_append, hlayer, ih]

theorem valueOver_of_agreeBut (h : AgreeBut key layer layer') (hother : other ≠ key) :
    valueOver other.name layer below = valueOver other.name layer' below := by
  have hfilter : ∀ layer : Layer, layer.filter (keyOf ·.1 = other.name) =
      (layer.filter (keyOf ·.1 ≠ key.name)).filter (keyOf ·.1 = other.name) := by
    intro layer
    rw [List.filter_filter]
    refine List.filter_congr fun entry _ => ?_
    have hne : other.name ≠ key.name := fun heq => hother (Setting.name_injective heq)
    by_cases hname : keyOf entry.1 = other.name
    · simp [hname, hne]
    · simp [hname]
  rw [valueOver, valueOver, hfilter layer, hfilter layer', h]

/-- **The other settings are made of the same values.** -/
theorem valueFor_joined_of_ne (h : List.Forall₂ (AgreeBut key) lower lower')
    (hother : other ≠ key) :
    valueFor (joined (lower ++ upper)) other = valueFor (joined (lower' ++ upper)) other := by
  rw [valueFor, valueFor, lookup_joined, lookup_joined, List.flatten_append, List.flatten_append,
    valueOver_append, valueOver_append, valueOver_of_agreeBut (agreeBut_flatten h) hother]

/-! ## Entries that settle a setting -/

/-- **The entry settles a setting**, whatever the entries below give to it. It gives the
setting anything but an empty table. The output is the one setting that can be made of a
table, and a table is joined with one that is there, so either it replaces what is there or
there is none. -/
def Settles (key : Setting) (below : Layer) (entry : String × ConfigValue) : Prop :=
  keyOf entry.1 = key.name ∧ ¬ IsVoid entry ∧
    (Replaces entry ∨ key ≠ .output ∨
      ∀ other ∈ below, keyOf other.1 = key.name → IsSingle other)

theorem settles_of_replaces {below : Layer} (hname : keyOf entry.1 = key.name)
    (h : Replaces entry) : Settles key below entry := by
  refine ⟨hname, fun hvoid => ?_, .inl h⟩
  have htable := h.2
  rw [hvoid.2] at htable
  cases htable

/-- Values that a setting does not tell apart: it looks at the same in both. -/
def Indistinct (key : Setting) (below below' : Option ConfigValue) : Prop :=
  below.map key.look = below'.map key.look

/-- An entry that neither replaces what is there nor gives nothing leaves tables, or lists,
of which only the output looks at what they hold. -/
theorem indistinct_stepOver (hkey : key ≠ .output) (hvoid : ¬ IsVoid entry)
    (hreplaces : ¬ Replaces entry) :
    Indistinct key (some (stepOver entry below)) (some (stepOver entry below')) := by
  rcases stepOver_structure hvoid hreplaces with htable | hlist
  · obtain ⟨members, hmembers⟩ := htable below
    obtain ⟨members', hmembers'⟩ := htable below'
    rw [hmembers, hmembers', Indistinct, Option.map_some, Option.map_some,
      Setting.look_table hkey, Setting.look_table hkey]
  · obtain ⟨items, hitems⟩ := hlist below
    obtain ⟨items', hitems'⟩ := hlist below'
    rw [hitems, hitems', Indistinct, Option.map_some, Option.map_some,
      Setting.look_list hkey, Setting.look_list hkey]

/-- Nothing that is put over the values tells them apart again. -/
theorem Indistinct.stepOver (h : Indistinct key below below') :
    Indistinct key (some (stepOver entry below)) (some (stepOver entry below')) := by
  by_cases hkey : key = .output
  · subst hkey
    rw [Indistinct, Setting.look_output, Option.map_id, id, id] at h
    rw [h]
    rfl
  · by_cases hreplaces : Replaces entry
    · rw [stepOver_of_replaces hreplaces, stepOver_of_replaces hreplaces]
      rfl
    · by_cases hvoid : IsVoid entry
      · rw [stepOver_of_isVoid hvoid, stepOver_of_isVoid hvoid]
        cases below with
        | none =>
          cases below' with
          | none => rfl
          | some value' => cases h
        | some value =>
          cases below' with
          | none => cases h
          | some value' => exact h
      · exact indistinct_stepOver hkey hvoid hreplaces

theorem valueOver_cons {name : String} (entry : String × ConfigValue) (later : Layer) :
    valueOver name (entry :: later) below =
      if keyOf entry.1 = name then valueOver name later (some (stepOver entry below))
      else valueOver name later below := by
  rw [valueOver, List.filter_cons]
  split_ifs with hname <;> simp_all [valueOver]

theorem Indistinct.valueOver (h : Indistinct key below below') (entries : Layer) :
    Indistinct key (valueOver key.name entries below) (valueOver key.name entries below') := by
  induction entries generalizing below below' with
  | nil => exact h
  | cons entry later ih =>
    rw [valueOver_cons, valueOver_cons]
    split_ifs
    · exact ih h.stepOver
    · exact ih h

/-- An entry that replaces what is there, or leaves a table or a list where the setting
does not look at more, makes all values alike. -/
theorem indistinct_of_replaces {entries : Layer} (hmem : entry ∈ entries)
    (hname : keyOf entry.1 = key.name) (hvoid : ¬ IsVoid entry)
    (h : Replaces entry ∨ key ≠ .output) :
    Indistinct key (valueOver key.name entries below) (valueOver key.name entries below') := by
  obtain ⟨front, back, rfl⟩ := List.append_of_mem hmem
  rw [valueOver_append, valueOver_append, valueOver_cons, valueOver_cons, if_pos hname,
    if_pos hname]
  refine Indistinct.valueOver ?_ back
  by_cases hreplaces : Replaces entry
  · rw [stepOver_of_replaces hreplaces, stepOver_of_replaces hreplaces]
    rfl
  · exact indistinct_stepOver (h.resolve_left hreplaces) hvoid hreplaces

/-- A value without members and items: every entry puts the same in its place. -/
def IsBare (below : Option ConfigValue) : Prop :=
  (below.getD .null).members = [] ∧ (below.getD .null).items = []

theorem isBare_valueOver {entries : Layer} (hbare : IsBare below)
    (h : ∀ entry ∈ entries, keyOf entry.1 = key.name → IsSingle entry) :
    IsBare (valueOver key.name entries below) := by
  induction entries generalizing below with
  | nil => exact hbare
  | cons entry later ih =>
    rw [valueOver_cons]
    have hlater := fun entry hentry => h entry (List.mem_cons_of_mem _ hentry)
    split_ifs with hname
    · obtain ⟨hpath, hvalue⟩ := h entry List.mem_cons_self hname
      have hreplaces : Replaces entry := by
        refine ⟨hpath, ?_⟩
        cases hentry : entry.2 <;> simp_all [ConfigValue.isTable, ConfigValue.isStructure]
      refine ih ?_ hlater
      rw [stepOver_of_replaces hreplaces]
      unfold IsBare
      cases hentry : entry.2 <;>
        simp_all [ConfigValue.isStructure, ConfigValue.members, ConfigValue.items]
    · exact ih hbare hlater

/-- Over bare values, the first entry that gives anything makes all values alike. -/
theorem valueOver_eq_of_isBare {entries : Layer} (hbare : IsBare below) (hbare' : IsBare below')
    (hmem : entry ∈ entries) (hname : keyOf entry.1 = key.name) (hvoid : ¬ IsVoid entry) :
    valueOver key.name entries below = valueOver key.name entries below' := by
  induction entries generalizing below below' with
  | nil => cases hmem
  | cons first later ih =>
    rw [valueOver_cons, valueOver_cons]
    have hlater : IsVoid first ∨ keyOf first.1 ≠ key.name → entry ∈ later := by
      intro h
      rcases List.mem_cons.1 hmem with rfl | hmem
      · exact (h.elim hvoid fun hne => hne hname).elim
      · exact hmem
    split_ifs with hfirst
    · by_cases hvoidFirst : IsVoid first
      · -- An empty table leaves bare values bare.
        refine ih ?_ ?_ (hlater (.inl hvoidFirst))
        · rw [stepOver_of_isVoid hvoidFirst]
          cases below with
          | none => exact ⟨rfl, rfl⟩
          | some value => exact hbare
        · rw [stepOver_of_isVoid hvoidFirst]
          cases below' with
          | none => exact ⟨rfl, rfl⟩
          | some value => exact hbare'
      · rw [stepOver_congr hvoidFirst (hbare.1.trans hbare'.1.symm) (hbare.2.trans hbare'.2.symm)]
    · exact ih hbare hbare' (hlater (.inr hfirst))

/-- **A settled setting looks at the same**, whatever is put under it. -/
theorem indistinct_of_settles
    (h : ∃ entry ∈ upper.flatten, Settles key (lower.flatten ++ lower'.flatten) entry) :
    Indistinct key ((joined (lower ++ upper)).members.lookup key.name)
      ((joined (lower' ++ upper)).members.lookup key.name) := by
  obtain ⟨entry, hmem, hname, hvoid, hsettles⟩ := h
  rw [lookup_joined, lookup_joined, List.flatten_append, List.flatten_append, valueOver_append,
    valueOver_append]
  rcases hsettles with hreplaces | hkey | hsingle
  · exact indistinct_of_replaces hmem hname hvoid (.inl hreplaces)
  · exact indistinct_of_replaces hmem hname hvoid (.inr hkey)
  · refine congrArg (Option.map key.look) (valueOver_eq_of_isBare ?_ ?_ hmem hname hvoid)
    · exact isBare_valueOver ⟨rfl, rfl⟩ fun other hother => hsingle other (by simp [hother])
    · exact isBare_valueOver ⟨rfl, rfl⟩ fun other hother => hsingle other (by simp [hother])

/-- **What is put under a settled setting is not seen**: the settings are made of the same
values. -/
theorem valueFor_joined_eq (hlower : List.Forall₂ (AgreeBut key) lower lower')
    (h : ∃ entry ∈ upper.flatten, Settles key (lower.flatten ++ lower'.flatten) entry) :
    valueFor (joined (lower ++ upper)) = valueFor (joined (lower' ++ upper)) := by
  funext other
  by_cases hother : other = key
  · subst hother
    exact indistinct_of_settles h
  · exact valueFor_joined_of_ne hlower hother

end Config

end CronSchedule
