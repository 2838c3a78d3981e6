import CronSchedule.Config.Layers
import Mathlib.Tactic.SplitIfs

/-!
# What the joined layers say about a setting

`joined` puts the entries of all layers into one table, each at the path that its name is.
What that table has under a name of the top level is made by the entries with that name
alone (`lookup_joined`), one after the other (`stepOver`). An entry mostly takes the place of
what was there (`stepOver_of_replaces`). Only a table, or a path that goes on, is put into
what was there, and looks at the members and items of it (`stepOver_congr`).
-/

namespace CronSchedule

namespace ConfigValue

def isTable : ConfigValue → Bool
  | table _ => true
  | _ => false

/-- The value is a table or a list. -/
def isStructure : ConfigValue → Bool
  | table _ | list _ => true
  | _ => false

theorem lookup_cons (name key : String) (value : ConfigValue)
    (members : List (String × ConfigValue)) :
    ((name, value) :: members).lookup key =
      if key = name then some value else members.lookup key := by
  rw [List.lookup_cons]
  split_ifs with hkey
  · rw [beq_iff_eq.2 hkey]
  · rw [beq_eq_false_iff_ne.2 hkey]

theorem lookup_replace (name key : String) (value : ConfigValue)
    (members : List (String × ConfigValue)) :
    (replace name value members).lookup key =
      if key = name then some value else members.lookup key := by
  induction members with
  | nil => exact lookup_cons name key value []
  | cons member later ih =>
    obtain ⟨other, kept⟩ := member
    by_cases hother : other = name
    · subst hother
      simp only [replace, if_true, lookup_cons]
      split_ifs <;> rfl
    · rw [replace, if_neg hother, lookup_cons, lookup_cons, ih]
      split_ifs with hkey hname <;> first | rfl | exact absurd (hkey.symm.trans hname) hother

end ConfigValue

namespace Config

variable {entry : String × ConfigValue} {key first : String} {path : List Step}
variable {value target : ConfigValue} {below below' : Option ConfigValue} {layer layer' : Layer}

/-- The name on the top level that the path of an entry begins with. -/
def keyOf (name : String) : String :=
  match pathOf name with
  | .member first :: _ => ConfigValue.foldCase first
  | _ => ""

theorem exists_of_readMember {text rest : List Char} {step : Step}
    (h : readMember text = some (step, rest)) : ∃ first, step = .member first := by
  simp only [readMember] at h
  split_ifs at h
  obtain ⟨rfl, -⟩ := Prod.mk.inj (Option.some.inj h)
  exact ⟨_, rfl⟩

/-- Every path begins with a name. -/
theorem exists_pathOf (name : String) : ∃ first path, pathOf name = .member first :: path := by
  unfold pathOf
  cases hmember : readMember name.toList with
  | none => exact ⟨name, [], rfl⟩
  | some read =>
    obtain ⟨step, rest⟩ := read
    obtain ⟨first, rfl⟩ := exists_of_readMember hmember
    cases hsteps : readSteps rest.length rest with
    | none => exact ⟨name, [], by simp [hsteps]⟩
    | some path => exact ⟨first, path, by simp [hsteps]⟩

/-- What a value becomes when another is put at the end of a path in it. -/
def putAt (value : ConfigValue) (path : List Step) (below : Option ConfigValue) : ConfigValue :=
  match path, value with
  | [], .table incoming => ConfigValue.mergeInto (below.getD (.table [])) incoming
  | [], value => value
  | path, value => setAt value path (below.getD .null)

theorem lookup_setAt : (setAt value (.member first :: path) target).members.lookup key =
    if key = ConfigValue.foldCase first then some (putAt value path (target.members.lookup key))
    else target.members.lookup key := by
  have hmembers : ∀ name made, (ConfigValue.table
      (ConfigValue.replace name made target.members)).members.lookup key =
        if key = name then some made else target.members.lookup key :=
    fun name made => ConfigValue.lookup_replace name key made target.members
  cases path with
  | nil =>
    cases value with
    | table incoming =>
      -- Only a table is joined with what is under its name.
      simp only [setAt, ConfigValue.mergeMember, hmembers, putAt]
      split_ifs with hkey <;> simp only [hkey]
    | _ => simp only [setAt, ConfigValue.mergeMember, hmembers, putAt]
  | cons step path =>
    simp only [setAt, hmembers, putAt]
    split_ifs with hkey <;> simp only [hkey]

/-- What the value under its name becomes when an entry is put over it. -/
def stepOver (entry : String × ConfigValue) (below : Option ConfigValue) : ConfigValue :=
  putAt entry.2 (pathOf entry.1).tail below

/-- What a value under a name becomes when entries are put over it, one after the other. -/
def valueOver (key : String) (entries : Layer) (below : Option ConfigValue) :
    Option ConfigValue :=
  (entries.filter (keyOf ·.1 = key)).foldl (fun below entry => some (stepOver entry below)) below

theorem valueOver_append (entries later : Layer) :
    valueOver key (entries ++ later) below =
      valueOver key later (valueOver key entries below) := by
  rw [valueOver, List.filter_append, List.foldl_append, valueOver, valueOver]

theorem lookup_foldl (entries : Layer) :
    (entries.foldl (fun target (name, value) => setAt value (pathOf name) target)
      target).members.lookup key = valueOver key entries (target.members.lookup key) := by
  induction entries generalizing target with
  | nil => rfl
  | cons entry later ih =>
    obtain ⟨name, value⟩ := entry
    obtain ⟨first, path, hpath⟩ := exists_pathOf name
    have hkey : keyOf name = ConfigValue.foldCase first := by rw [keyOf, hpath]
    rw [List.foldl_cons, ih]
    dsimp only
    rw [hpath, lookup_setAt, valueOver, valueOver, List.filter_cons, hkey]
    by_cases hsame : key = ConfigValue.foldCase first
    · simp only [hsame, if_true, decide_true, List.foldl_cons, stepOver, hpath, List.tail_cons]
    · simp only [hsame, if_false, Ne.symm hsame, decide_false, Bool.false_eq_true]

/-- **What the joined layers have under a name** comes of the entries with that name. -/
theorem lookup_joined (layers : List Layer) :
    (joined layers).members.lookup key = valueOver key layers.flatten none :=
  lookup_foldl layers.flatten

/-! ## What an entry makes of the value below -/

/-- The entry gives nothing: it puts an empty table over what is there. -/
def IsVoid (entry : String × ConfigValue) : Prop :=
  (pathOf entry.1).tail = [] ∧ entry.2 = .table []

/-- The entry puts its value, which is no table, in place of what is there. -/
def Replaces (entry : String × ConfigValue) : Prop :=
  (pathOf entry.1).tail = [] ∧ entry.2.isTable = false

/-- The entry puts a value in place of what is there that is neither a table nor a list. -/
def IsSingle (entry : String × ConfigValue) : Prop :=
  (pathOf entry.1).tail = [] ∧ entry.2.isStructure = false

theorem stepOver_of_isVoid (h : IsVoid entry) : stepOver entry below = below.getD (.table []) := by
  rw [stepOver, h.1, h.2]
  simp only [putAt, ConfigValue.mergeInto]

theorem stepOver_of_replaces (h : Replaces entry) : stepOver entry below = entry.2 := by
  obtain ⟨hpath, hvalue⟩ := h
  rw [stepOver, hpath]
  cases hentry : entry.2 <;> simp_all [putAt, ConfigValue.isTable]

theorem setAt_congr {step : Step} {other : ConfigValue} (hmembers : target.members = other.members)
    (hitems : target.items = other.items) :
    setAt value (step :: path) target = setAt value (step :: path) other := by
  cases step with
  | member name => cases path <;> simp only [setAt, hmembers]
  | item index => simp only [setAt, hitems]

/-- **An entry looks at no more than the members and the items of the value below.** -/
theorem stepOver_congr (h : ¬ IsVoid entry)
    (hmembers : (below.getD .null).members = (below'.getD .null).members)
    (hitems : (below.getD .null).items = (below'.getD .null).items) :
    stepOver entry below = stepOver entry below' := by
  have htable : ∀ below : Option ConfigValue,
      (below.getD (.table [])).members = (below.getD .null).members := by
    intro below
    cases below <;> rfl
  by_cases hreplaces : Replaces entry
  · rw [stepOver_of_replaces hreplaces, stepOver_of_replaces hreplaces]
  · rw [stepOver, stepOver]
    cases hpath : (pathOf entry.1).tail with
    | cons step path => exact setAt_congr hmembers hitems
    | nil =>
      cases hvalue : entry.2 with
      | table incoming =>
        cases incoming with
        | nil => exact absurd ⟨hpath, hvalue⟩ h
        | cons member later =>
          simp only [putAt, ConfigValue.mergeInto, htable, hmembers]
      | _ => exact absurd ⟨hpath, by rw [hvalue]; rfl⟩ hreplaces

theorem exists_mergeInto_eq_table (members incoming : List (String × ConfigValue)) :
    ∃ made, ConfigValue.mergeInto (.table members) incoming = .table made := by
  induction incoming generalizing members with
  | nil => exact ⟨members, by simp only [ConfigValue.mergeInto]⟩
  | cons member later ih =>
    simp only [ConfigValue.mergeInto]
    exact ih _

/-- **Only a replacing entry, or one that gives nothing, leaves anything but a table or a
list**, and which of the two it leaves does not depend on what is there. -/
theorem stepOver_structure (h : ¬ IsVoid entry) (hreplaces : ¬ Replaces entry) :
    (∀ below, ∃ members, stepOver entry below = .table members) ∨
      ∀ below, ∃ items, stepOver entry below = .list items := by
  unfold stepOver
  cases hpath : (pathOf entry.1).tail with
  | cons step path =>
    cases step with
    | member name =>
      left
      intro below
      cases path <;> exact ⟨_, rfl⟩
    | item index => exact .inr fun below => ⟨_, rfl⟩
  | nil =>
    cases hvalue : entry.2 with
    | table incoming =>
      cases incoming with
      | nil => exact absurd ⟨hpath, hvalue⟩ h
      | cons member later =>
        left
        intro below
        simp only [putAt, ConfigValue.mergeInto]
        exact exists_mergeInto_eq_table _ _
    | _ => exact absurd ⟨hpath, by rw [hvalue]; rfl⟩ hreplaces

end Config

end CronSchedule
