import CronSchedule.Proofs.Expression.Meaning
import CronSchedule.Proofs.Text.Words

/-!
# The normal form of an expression

A field is written with digits, capitals and a few signs, all of them ASCII
(`IsFieldChar`, `IsField.isFieldChar`). Normalizing gives words with single spaces between
them (`normalize_spec`), and when these are written with such characters alone, there is
nothing left to normalize (`normalize_normalize`): what came from another script has
become one of them, or would not be in the grammar.
-/

namespace CronSchedule

namespace Expression

open Text

variable {field : Field} {yearLimit n : Nat} {text : List Char} {c : Char}
variable {item : Item} {items : List Item}

/-! ## The characters of a field -/

/-- **A character that a field may be written with.** -/
def IsFieldChar (c : Char) : Prop :=
  c.isDigit = true ∨ c.isUpper = true ∨ c ∈ ['*', '/', '-', ',', '?', '#']

instance : DecidablePred IsFieldChar :=
  fun _ => inferInstanceAs (Decidable (_ ∨ _ ∨ _))

theorem IsFieldChar.toNat_lt (h : IsFieldChar c) : c.toNat < 128 := by
  rcases h with hdigit | hupper | hsign
  · have hle : c.toNat ≤ '9'.toNat := (Char.isDigit_iff_toNat.1 hdigit).2
    exact Nat.lt_of_le_of_lt hle (by decide)
  · have hle : c.toNat ≤ 'Z'.toNat := (of_decide_eq_true hupper).2
    exact Nat.lt_of_le_of_lt hle (by decide)
  · simp only [List.mem_cons, List.not_mem_nil, or_false] at hsign
    rcases hsign with rfl | rfl | rfl | rfl | rfl | rfl <;> decide

/-- Such a character is no white space, and upper case leaves it as it is. -/
theorem IsFieldChar.spec (h : IsFieldChar c) : isBlank c = false ∧ upperCase c = [c] := by
  obtain ⟨hblank, hupper⟩ := forall_ascii
    (P := fun c => IsFieldChar c → isBlank c = false ∧ c.toUpper = c) (by decide) h.toNat_lt h
  rw [upperCase_of_lt h.toNat_lt, hupper]
  exact ⟨hblank, rfl⟩

theorem IsNumber.isFieldChar (h : IsNumber text n) : ∀ c ∈ text, IsFieldChar c :=
  fun c hc => .inl (h.2.1 c hc)

theorem IsValue.isFieldChar (h : IsValue yearLimit field text n) : ∀ c ∈ text, IsFieldChar c := by
  cases h with
  | number hnumber => exact hnumber.isFieldChar
  | name hname => exact fun c hc => .inr (.inl ((Field.capitals_of_name hname).2.1 c hc))

theorem ListItem.isFieldChar (h : ListItem yearLimit field text item) :
    ∀ c ∈ text, IsFieldChar c := by
  have hsign : IsFieldChar '*' ∧ IsFieldChar '/' ∧ IsFieldChar '-' := by decide
  cases h with
  | all => grind
  | allStep hstep | step hstep =>
    have := hstep.1.isFieldChar
    grind
  | value hvalue => exact hvalue.isFieldChar
  | range hvalue hvalue' =>
    have := hvalue.isFieldChar
    have := hvalue'.isFieldChar
    grind
  | rangeStep hvalue hvalue' _ hstep =>
    have := hvalue.isFieldChar
    have := hvalue'.isFieldChar
    have := hstep.1.isFieldChar
    grind
  | valueStep hvalue hstep =>
    have := hvalue.isFieldChar
    have := hstep.1.isFieldChar
    grind

theorem LoneItem.isFieldChar (h : LoneItem yearLimit field text item) :
    ∀ c ∈ text, IsFieldChar c := by
  have hsign : IsFieldChar '?' ∧ IsFieldChar '#' ∧ IsFieldChar '-' := by decide
  have hletter : IsFieldChar 'L' ∧ IsFieldChar 'W' := by decide
  cases h with
  | unspecified | lastDay | lastWorkday | saturday => grind
  | lastDayOffset hnumber | lastWorkdayOffset hnumber =>
    have := hnumber.isFieldChar
    grind
  | nearestWeekday hvalue | lastWeekday hvalue =>
    have := hvalue.isFieldChar
    grind
  | nthWeekday hvalue hnumber =>
    have := hvalue.isFieldChar
    have := hnumber.isFieldChar
    grind

/-- **A field is written with the characters of fields.** -/
theorem IsField.isFieldChar (h : IsField yearLimit field text items) :
    ∀ c ∈ text, IsFieldChar c := by
  intro c hc
  rcases h with hlone | hlist
  · exact hlone.isFieldChar c hc
  · by_cases hcomma : c = ','
    · rw [hcomma]
      decide
    · obtain ⟨piece, hpiece, hmem⟩ := (exists_mem_split hcomma).2 hc
      obtain ⟨item, hitem⟩ := exists_of_forall₂ hlist.flip hpiece
      exact hitem.isFieldChar c hmem

/-! ## The words of a normalized text -/

theorem mem_intercalate_of_mem {separator word : List Char} {texts : List (List Char)}
    (hword : word ∈ texts) (hc : c ∈ word) : c ∈ separator.intercalate texts := by
  induction texts with
  | nil => simp at hword
  | cons first later ih =>
    cases later with
    | nil => simp_all
    | cons next later =>
      rw [List.intercalate_cons_cons]
      rcases List.mem_cons.1 hword with rfl | hword
      · simp [hc]
      · simp [ih hword]

theorem flatMap_intercalate {separator : List Char} {f : Char → List Char}
    (texts : List (List Char)) : (separator.intercalate texts).flatMap f =
      (separator.flatMap f).intercalate (texts.map (·.flatMap f)) := by
  induction texts with
  | nil => rfl
  | cons first later ih =>
    cases later with
    | nil => simp
    | cons next later =>
      simp only [List.intercalate_cons_cons, List.flatMap_append, ih, List.map_cons]

/-- **A normalized text is words with single spaces between them.** -/
theorem normalize_spec (text : List Char) : ∃ texts : List (List Char),
    normalize text = [' '].intercalate texts ∧ ∀ word ∈ texts, word ≠ [] ∧ ' ' ∉ word := by
  have hspace : [' '].flatMap upperCase = [' '] := by decide
  refine ⟨(words text).map (·.flatMap upperCase), ?_, ?_⟩
  · rw [normalize, flatMap_intercalate, hspace]
  · intro word hword
    obtain ⟨plain, hplain, rfl⟩ := List.mem_map.1 hword
    obtain ⟨hne, hblank⟩ := mem_words hplain
    obtain ⟨first, later, rfl⟩ := List.exists_cons_of_ne_nil hne
    constructor
    · simp [upperCase_ne_nil]
    · intro hspace
      obtain ⟨c, hc, hmem⟩ := List.mem_flatMap.1 hspace
      refine space_not_mem_upperCase ?_ hmem
      rintro rfl
      exact absurd (hblank ' ' hc) (by decide)

/-- **Words in the characters of fields, with single spaces between them,** are in normal form
already. -/
theorem normalize_intercalate {texts : List (List Char)}
    (h : ∀ word ∈ texts, word ≠ [] ∧ ∀ c ∈ word, IsFieldChar c) :
    normalize ([' '].intercalate texts) = [' '].intercalate texts := by
  have hwords : words ([' '].intercalate texts) = texts := words_intercalate fun word hword =>
    ⟨(h word hword).1, fun c hc => ((h word hword).2 c hc).spec.1⟩
  have hupper : ∀ word ∈ texts, word.flatMap upperCase = word := by
    intro word hword
    rw [List.flatMap_congr fun c hc => ((h word hword).2 c hc).spec.2, List.flatMap_singleton']
  have hspace : [' '].flatMap upperCase = [' '] := by decide
  rw [normalize, hwords, flatMap_intercalate, hspace, List.map_congr_left hupper, List.map_id']

/-- **There is nothing left to normalize** in a normalized text that is written with the
characters of fields. -/
theorem normalize_normalize (h : ∀ c ∈ normalize text, c = ' ' ∨ IsFieldChar c) :
    normalize (normalize text) = normalize text := by
  obtain ⟨texts, heq, htexts⟩ := normalize_spec text
  rw [heq] at h ⊢
  refine normalize_intercalate fun word hword => ⟨(htexts word hword).1, fun c hc => ?_⟩
  refine (h c (mem_intercalate_of_mem hword hc)).resolve_left ?_
  rintro rfl
  exact (htexts word hword).2 hc

end Expression

end CronSchedule
