import CronSchedule.Text.Blank
import CronSchedule.Text.UpperCase
import Mathlib.Data.List.Basic
import Mathlib.Data.List.TakeWhile

/-!
# Words and their upper case

A word has a character and no white space (`mem_words`), and a text of such words with
single spaces between them has exactly these words (`words_intercalate`). Both come from
the one equation `words_append`: a word in front of white space is the first one.
In upper case no character is lost, and none turns into a space (`upperCase_ne_nil`,
`space_not_mem_upperCase`), so the words of a text stay words. White space at the ends
of a text that itself begins and ends without is taken off again (`trim_append`).
-/

namespace CronSchedule

namespace Text

variable {text word rest : List Char} {texts : List (List Char)} {c : Char}

/-! ## White space at the ends -/

theorem dropBlanks_of_head (h : ∀ c ∈ text.head?, isBlank c = false) : dropBlanks text = text := by
  cases text with
  | nil => rfl
  | cons c rest => exact List.dropWhile_cons_of_neg (by simp [h c rfl])

/-- The text has characters, and no white space at its ends. -/
structure IsTrimmed (text : List Char) : Prop where
  ne_nil : text ≠ []
  head : ∀ c ∈ text.head?, isBlank c = false
  last : ∀ c ∈ text.getLast?, isBlank c = false

theorem isTrimmed_of_forall (hne : text ≠ []) (h : ∀ c ∈ text, isBlank c = false) :
    IsTrimmed text where
  ne_nil := hne
  head c hc := h c (List.mem_of_mem_head? hc)
  last c hc := h c (List.mem_of_mem_getLast? hc)

/-- Between two such texts anything may stand. -/
theorem IsTrimmed.append {first last : List Char} (hfirst : IsTrimmed first)
    (hlast : IsTrimmed last) (between : List Char) : IsTrimmed (first ++ between ++ last) where
  ne_nil := List.append_ne_nil_of_right_ne_nil _ hlast.ne_nil
  head c hc := by
    rw [List.append_assoc, List.head?_append_of_ne_nil _ hfirst.ne_nil] at hc
    exact hfirst.head c hc
  last c hc := by
    rw [List.getLast?_append_of_ne_nil _ hlast.ne_nil] at hc
    exact hlast.last c hc

theorem IsTrimmed.append_cons {first last : List Char} (hfirst : IsTrimmed first)
    (hlast : IsTrimmed last) (c : Char) : IsTrimmed (first ++ c :: last) :=
  List.append_cons first c last ▸ hfirst.append hlast [c]

/-- **Trimming takes the white space around a text off again.** -/
theorem trim_append (before after : List Char) (hbefore : ∀ c ∈ before, isBlank c = true)
    (hafter : ∀ c ∈ after, isBlank c = true) (h : IsTrimmed text) :
    trim (before ++ text ++ after) = text := by
  have hfront : dropBlanks (before ++ text ++ after) = text ++ after := by
    rw [List.append_assoc, dropBlanks, List.dropWhile_append_of_pos hbefore]
    exact dropBlanks_of_head (by rw [List.head?_append_of_ne_nil _ h.ne_nil]; exact h.head)
  have hback : dropBlanks (text ++ after).reverse = text.reverse := by
    rw [List.reverse_append, dropBlanks, List.dropWhile_append_of_pos
      fun c hc => hafter c (List.mem_reverse.1 hc)]
    exact dropBlanks_of_head (by rw [List.head?_reverse]; exact h.last)
  rw [trim, hfront, hback, List.reverse_reverse]

theorem IsTrimmed.trim_eq (h : IsTrimmed text) : trim text = text := by
  have htrim := trim_append [] [] nofun nofun h
  rwa [List.nil_append, List.append_nil] at htrim

/-! ## Words -/

theorem words_eq (text : List Char) : words text = match dropBlanks text with
    | [] => []
    | c :: rest => (c :: rest.takeWhile (!isBlank ·)) :: words (rest.dropWhile (!isBlank ·)) := by
  rw [words]
  split <;> simp [*]

theorem words_cons_of_isBlank (hc : isBlank c = true) : words (c :: rest) = words rest := by
  rw [words_eq, words_eq rest, dropBlanks, dropBlanks, List.dropWhile_cons_of_pos hc]

/-- **A word that white space follows, or nothing, is the first word.** -/
theorem words_append (hne : word ≠ []) (hword : ∀ c ∈ word, isBlank c = false)
    (hrest : ∀ c ∈ rest.head?, isBlank c = true) : words (word ++ rest) = word :: words rest := by
  obtain ⟨first, later, rfl⟩ := List.exists_cons_of_ne_nil hne
  have hlater : ∀ c ∈ later, (!isBlank c) = true := by
    intro c hc
    rw [hword c (List.mem_cons_of_mem _ hc)]
    rfl
  -- The word ends where the text does, or at the white space.
  have hend : rest.takeWhile (!isBlank ·) = [] ∧ rest.dropWhile (!isBlank ·) = rest := by
    cases rest with
    | nil => exact ⟨rfl, rfl⟩
    | cons c rest => simp [hrest c rfl]
  have hdrop : dropBlanks (first :: later ++ rest) = first :: (later ++ rest) :=
    List.dropWhile_cons_of_neg (by simp [hword first List.mem_cons_self])
  rw [words_eq, hdrop]
  simp only [List.takeWhile_append_of_pos hlater, List.dropWhile_append_of_pos hlater, hend,
    List.append_nil]

/-- **Words with single spaces between them are the words of the text.** -/
theorem words_intercalate (h : ∀ word ∈ texts, word ≠ [] ∧ ∀ c ∈ word, isBlank c = false) :
    words ([' '].intercalate texts) = texts := by
  induction texts with
  | nil => rw [List.intercalate_nil, words_eq]; rfl
  | cons word later ih =>
    obtain ⟨⟨hne, hword⟩, hlater⟩ := List.forall_mem_cons.1 h
    cases later with
    | nil =>
      have hwords : words (word ++ []) = word :: words [] := words_append hne hword (by simp)
      rw [List.append_nil] at hwords
      rw [List.intercalate_singleton, hwords, words_eq]
      rfl
    | cons next later =>
      rw [List.intercalate_cons_cons, List.append_assoc, words_append hne hword (by simp; decide),
        List.singleton_append, words_cons_of_isBlank (by decide), ih hlater]

/-- **A word has a character, and no white space.** -/
theorem mem_words (h : word ∈ words text) : word ≠ [] ∧ ∀ c ∈ word, isBlank c = false := by
  fun_induction words text with
  | case1 text hnone => simp at h
  | case2 text first rest hdrop hlt ih =>
    rcases List.mem_cons.1 h with rfl | h
    · refine ⟨List.cons_ne_nil _ _, fun c hc => ?_⟩
      rcases List.mem_cons.1 hc with rfl | hc
      · have hhead := List.head?_dropWhile_not isBlank text
        rw [← dropBlanks, hdrop] at hhead
        simpa using hhead
      · simpa using List.mem_takeWhile_imp hc
    · exact ih h

/-! ## Upper case -/

/-- What holds of the codes of ASCII holds of its characters. -/
theorem forall_ascii {P : Char → Prop} (h : ∀ code < 128, P (Char.ofNat code))
    (hc : c.toNat < 128) : P c := by
  have hchar := h c.toNat hc
  rwa [Char.ofNat_toNat] at hchar

theorem ofNat_ne_space {code : Nat} (h : 0x41 ≤ code) : Char.ofNat code ≠ ' ' := by
  intro heq
  by_cases hvalid : code.isValidChar
  · rw [Char.ofNat, dif_pos hvalid] at heq
    have hcode : code = 32 := congrArg Char.toNat heq
    omega
  · rw [Char.ofNat, dif_neg hvalid] at heq
    exact absurd heq (by decide)

theorem le_capital : ∀ run ∈ caseRuns, 0x41 ≤ run.capital := by
  decide +kernel

theorem expansion_spec : ∀ expansion ∈ caseExpansions,
    expansion.2 ≠ [] ∧ ∀ code ∈ expansion.2, 0x41 ≤ code := by
  decide +kernel

/-- What a character is in upper case: one of ASCII, itself, or something with codes from
that of `A` on. -/
theorem upperCase_cases (c : Char) : (c.toNat < 128 ∧ upperCase c = [c.toUpper]) ∨
    upperCase c = [c] ∨
    ∃ codes : List Nat, codes ≠ [] ∧ (∀ code ∈ codes, 0x41 ≤ code) ∧
      upperCase c = codes.map Char.ofNat := by
  unfold upperCase
  split
  · rename_i hlt
    exact .inl ⟨hlt, rfl⟩
  · split
    · rename_i code hcode
      obtain ⟨run, hrun, hcapital⟩ := List.exists_of_findSome?_eq_some hcode
      have := le_capital run hrun
      simp only [CaseRun.capital?, Option.ite_none_right_eq_some, Option.some.injEq] at hcapital
      refine .inr (.inr ⟨[code], List.cons_ne_nil _ _, ?_, rfl⟩)
      simp only [List.mem_singleton, forall_eq]
      omega
    · split
      · rename_i codes hcodes
        obtain ⟨before, after, hall, -⟩ := List.lookup_eq_some_iff.1 hcodes
        obtain ⟨hne, hle⟩ := expansion_spec (c.toNat, codes) (by simp [hall])
        exact .inr (.inr ⟨codes, hne, hle, rfl⟩)
      · exact .inr (.inl rfl)

/-- No character is lost in upper case. -/
theorem upperCase_ne_nil (c : Char) : upperCase c ≠ [] := by
  obtain ⟨-, h⟩ | h | ⟨codes, hne, -, h⟩ := upperCase_cases c
  · rw [h]
    exact List.cons_ne_nil _ _
  · rw [h]
    exact List.cons_ne_nil _ _
  · rw [h]
    exact mt List.map_eq_nil_iff.1 hne

/-- **Upper case makes no spaces.** -/
theorem space_not_mem_upperCase (h : c ≠ ' ') : ' ' ∉ upperCase c := by
  obtain ⟨hlt, hc⟩ | hc | ⟨codes, -, hcodes, hc⟩ := upperCase_cases c
  · have hspace : ' ' = c.toUpper → c = ' ' :=
      forall_ascii (P := fun c => ' ' = c.toUpper → c = ' ') (by decide) hlt
    rw [hc, List.mem_singleton]
    exact mt hspace h
  · rw [hc, List.mem_singleton]
    exact h.symm
  · rw [hc, List.mem_map]
    rintro ⟨code, hcode, heq⟩
    exact ofNat_ne_space (hcodes code hcode) heq

end Text

end CronSchedule
