import CronSchedule.Proofs.Expression.Grammar
import CronSchedule.Proofs.Text.Pieces

/-!
# The tokens of a text

The tokens are the words of a text, each with the byte at which it begins
(`exists_of_tokens`), and six or seven of them are the fields of an expression: those in
front of a year that is left out, or all seven (`fieldTokens_eq_ok`). `fieldTexts` has the
words without their places.
-/

namespace CronSchedule

namespace Expression

open Text

variable {text : List Char} {texts : List (List Char)} {fs : Fields Token} {field : Field}

/-! ## Words and their places -/

theorem map_tokens (text : List Char) : (tokens text).map (·.chars) = fieldTexts text := by
  have hfilter := List.filter_map (p := fun chars : List Char => !chars.isEmpty)
    (f := fun piece : Nat × List Char => piece.2) (l := withOffsets 0 (split ' ' text))
  rw [map_withOffsets] at hfilter
  simp only [tokens, fieldTexts, List.map_map, hfilter]
  rfl

/-- **A token stands where its offset says**, after the earlier ones. -/
theorem exists_of_tokens {token : Token} {earlier later : List Token}
    (h : tokens text = earlier ++ token :: later) :
    ∃ before after, text = before ++ (token.chars ++ after) ∧
      byteLength before = token.offset ∧
      ∀ c ∈ before, c = ' ' ∨ ∃ other ∈ earlier, c ∈ other.chars := by
  simp only [tokens, List.map_eq_append_iff, List.map_eq_cons_iff] at h
  obtain ⟨kept, rest, hkept, rfl, ⟨offset, chars⟩, later, rfl, rfl, rfl⟩ := h
  obtain ⟨pieces, rest, hpieces, rfl, hrest⟩ := List.filter_eq_append_iff.1 hkept
  obtain ⟨skipped, rest, rfl, hskipped, -, -⟩ := List.filter_eq_cons_iff.1 hrest
  rw [← List.append_assoc] at hpieces
  obtain ⟨before, after, heq, hoffset, hbefore⟩ :=
    exists_of_withOffsets (by decide : Char.utf8Size ' ' = 1) hpieces
  rw [intercalate_split] at heq
  rw [Nat.zero_add] at hoffset
  refine ⟨before, after, heq, hoffset, fun c hc => (hbefore c hc).imp_right ?_⟩
  -- A piece with a character in it is not empty, and so a token.
  rintro ⟨other, hother, hmem⟩
  have hne : (!other.2.isEmpty) = true := by simp [List.ne_nil_of_mem hmem]
  rcases List.mem_append.1 hother with hother | hother
  · exact ⟨_, List.mem_map_of_mem (List.mem_filter.2 ⟨hother, hne⟩), hmem⟩
  · exact absurd hne (hskipped other hother)

/-- A text holds nothing but its tokens and spaces. -/
theorem exists_token_of_mem {c : Char} (hc : c ∈ text) :
    c = ' ' ∨ ∃ token ∈ tokens text, c ∈ token.chars := by
  rw [or_iff_not_imp_left]
  intro hspace
  obtain ⟨piece, hpiece, hmem⟩ := (exists_mem_split hspace).2 hc
  have hword : piece ∈ (tokens text).map (·.chars) := by
    rw [map_tokens]
    exact List.mem_filter.2 ⟨hpiece, by simp [List.ne_nil_of_mem hmem]⟩
  obtain ⟨token, htoken, rfl⟩ := List.mem_map.1 hword
  exact ⟨token, htoken, hmem⟩

/-- **Words with single spaces between them** are the tokens of their text. -/
theorem tokens_intercalate (hne : texts ≠ []) (h : ∀ word ∈ texts, word ≠ [] ∧ ' ' ∉ word) :
    tokens ([' '].intercalate texts) =
      (withOffsets 0 texts).map fun (offset, chars) => ⟨offset, chars⟩ := by
  have hall : ∀ piece ∈ withOffsets 0 texts, (!piece.2.isEmpty) = true := by
    intro piece hpiece
    have hword : piece.2 ∈ texts := by
      rw [← map_withOffsets 0 texts]
      exact List.mem_map_of_mem hpiece
    simpa using (h _ hword).1
  rw [tokens, split_intercalate hne fun word hword => (h word hword).2, List.filter_eq_self.2 hall]

/-! ## The fields -/

/-- **The tokens are those of the seven fields**, or all but the year, for which `*` stands at
the end of the text. -/
theorem fieldTokens_eq_ok : fieldTokens text = .ok fs ↔
    Field.all.map fs.get = tokens text ∨
      Field.all.map fs.get = tokens text ++ [⟨byteLength text, ['*']⟩] := by
  obtain ⟨_, _, _, _, _, _, _⟩ := fs
  unfold fieldTokens
  generalize tokens text = ts
  match ts with
  -- Too few fields, then six and seven, then too many.
  | [] | [_] | [_, _] | [_, _, _] | [_, _, _, _] | [_, _, _, _, _] => simp [Field.all]
  | [_, _, _, _, _, _] | [_, _, _, _, _, _, _] => simp [Field.all, Fields.get, eq_comm]
  | _ :: _ :: _ :: _ :: _ :: _ :: _ :: _ :: _ => simp [Field.all]

/-- There are tokens for the seven fields when the text has six or seven. -/
theorem exists_fieldTokens :
    (∃ fs, fieldTokens text = .ok fs) ↔
      (fieldTexts text).length = 6 ∨ (fieldTexts text).length = 7 := by
  rw [← map_tokens, List.length_map, fieldTokens]
  generalize tokens text = ts
  match ts with
  | [] | [_] | [_, _] | [_, _, _] | [_, _, _, _] | [_, _, _, _, _] => simp
  | [_, _, _, _, _, _] | [_, _, _, _, _, _, _] => simp
  | _ :: _ :: _ :: _ :: _ :: _ :: _ :: _ :: _ => simp

/-- The fields hold the words of the text, and `*` for a year that is left out. -/
theorem chars_of_fieldTokens (h : fieldTokens text = .ok fs) :
    Field.all.map (fun field => (fs.get field).chars) =
      fieldTexts text ++ if (fieldTexts text).length = 6 then [['*']] else [] := by
  have hlength : (Field.all.map fs.get).length = 7 := rfl
  have hchars : Field.all.map (fun field => (fs.get field).chars) =
      (Field.all.map fs.get).map (·.chars) := by rw [List.map_map]; rfl
  rw [hchars, ← map_tokens, List.length_map]
  rcases fieldTokens_eq_ok.1 h with htokens | htokens <;> rw [htokens] at hlength ⊢
  · rw [if_neg (by omega), List.append_nil]
  · rw [List.length_append, List.length_singleton] at hlength
    rw [if_pos (by omega), List.map_append]
    rfl

/-- Lists over all fields that are the same but for one place belong to functions that are the
same but for one field. -/
theorem exists_field_of_map {α : Type} {f : Field → α} {before after : List α} {x : α}
    (h : Field.all.map f = before ++ x :: after) :
    ∃ field, f field = x ∧ ∀ (g : Field → α) (y : α), Field.all.map g = before ++ y :: after →
      g field = y ∧ ∀ other, other ≠ field → g other = f other := by
  obtain ⟨earlier, rest, hall, hearlier, hrest⟩ := List.map_eq_append_iff.1 h
  obtain ⟨field, later, rfl, hfield, hlater⟩ := List.map_eq_cons_iff.1 hrest
  refine ⟨field, hfield, fun g y hg => ?_⟩
  rw [hall, List.map_append, List.map_cons] at hg
  have hlength : (earlier.map g).length = before.length := by
    rw [← hearlier, List.length_map, List.length_map]
  obtain ⟨hbefore, hafter⟩ := List.append_inj hg hlength
  obtain ⟨hy, hafter⟩ := List.cons.inj hafter
  refine ⟨hy, fun other hother => ?_⟩
  have hmem : other ∈ earlier ++ field :: later := hall ▸ other.mem_all
  rcases List.mem_append.1 hmem with hmem | hmem
  · exact List.map_inj_left.1 (hbefore.trans hearlier.symm) other hmem
  · exact List.map_inj_left.1 (hafter.trans hlater.symm) other
      ((List.mem_cons.1 hmem).resolve_left hother)

/-- **Another word in the place of one** changes the text of one field, and no other. -/
theorem exists_field_of_fieldTexts {before after : List (List Char)} {word : List Char}
    (hfs : fieldTokens text = .ok fs) (h : fieldTexts text = before ++ word :: after) :
    ∃ field, (fs.get field).chars = word ∧ ∀ other word',
      fieldTexts other = before ++ word' :: after → ∃ fs', fieldTokens other = .ok fs' ∧
        (fs'.get field).chars = word' ∧
        ∀ field', field' ≠ field → (fs'.get field').chars = (fs.get field').chars := by
  have hchars := chars_of_fieldTokens hfs
  have hcount := exists_fieldTokens.1 ⟨fs, hfs⟩
  rw [h, List.append_assoc, List.cons_append] at hchars
  obtain ⟨field, hfield, hothers⟩ := exists_field_of_map hchars
  refine ⟨field, hfield, fun other word' hother => ?_⟩
  have hlength : (before ++ word' :: after).length = (before ++ word :: after).length := by simp
  rw [h, ← hlength, ← hother] at hcount
  obtain ⟨fs', hfs'⟩ := exists_fieldTokens.2 hcount
  have hchars' := chars_of_fieldTokens hfs'
  rw [hother, hlength, List.append_assoc, List.cons_append] at hchars'
  exact ⟨fs', hfs', hothers _ _ hchars'⟩

/-- Without them, the text ends too early, or the fault is placed at its eighth token. -/
theorem fieldTokens_eq_error {error : ExpressionError} (h : fieldTokens text = .error error) :
    error = ⟨.tooFewFields, byteLength text⟩ ∨
      ∃ token ∈ tokens text, error = ⟨.tooManyFields, token.offset⟩ := by
  unfold fieldTokens at h
  split at h
  case h_1 | h_2 => cases h
  case h_3 htokens => exact .inr ⟨_, by simp [htokens], (Except.error.inj h).symm⟩
  case h_4 => exact .inl (Except.error.inj h).symm

/-- The tokens hold what stands in the text, and `*` for a year that does not. -/
theorem fieldTokens_spec (h : fieldTokens text = .ok fs) :
    (∀ field, (field, (fs.get field).chars) ∈ Field.all.zip (fieldTexts text) ∨
      field = .year ∧ (fs.get field).chars = ['*']) ∧
    ∀ field chars, (field, chars) ∈ Field.all.zip (fieldTexts text) →
      chars = (fs.get field).chars := by
  rw [← map_tokens]
  simp only [fieldTokens] at h
  split at h
  case h_1 htokens | h_2 htokens =>
    obtain rfl := Except.ok.inj h
    rw [htokens]
    constructor
    · intro field
      cases field <;> simp [Field.all, Fields.get]
    · intro field chars hmem
      cases field <;> simp [Field.all, Fields.get] at hmem ⊢ <;> exact hmem
  all_goals simp at h

/-- The token of a field has a character, and no space. -/
theorem isWord_of_fieldTokens (h : fieldTokens text = .ok fs) (field : Field) :
    (fs.get field).chars ≠ [] ∧ ' ' ∉ (fs.get field).chars := by
  rcases (fieldTokens_spec h).1 field with hmem | ⟨-, hyear⟩
  · obtain ⟨hpiece, hne⟩ := List.mem_filter.1 (List.of_mem_zip hmem).2
    exact ⟨by simpa using hne, not_mem_of_mem_split hpiece⟩
  · rw [hyear]
    decide

/-- The tokens of a text are the fields that stand in it, and `*` for a year that does
not. -/
theorem fieldTokens_texts (h : fieldTokens text = .ok fs) :
    (fs.map fun _ token => token.chars).toList =
      Field.all.zip (fieldTexts text ++ [['*']]) := by
  rw [← map_tokens]
  unfold fieldTokens at h
  split at h
  case h_1 htokens | h_2 htokens =>
    obtain rfl := Except.ok.inj h
    rw [htokens]
    rfl
  all_goals simp at h

/-- **Seven words with single spaces between them are the seven fields.** -/
theorem fieldTokens_intercalate {texts : Fields (List Char)}
    (h : ∀ field, texts.get field ≠ [] ∧ ' ' ∉ texts.get field) :
    ∃ fs : Fields Token, fieldTokens ([' '].intercalate (Field.all.map texts.get)) = .ok fs ∧
      Field.all.map fs.get = (withOffsets 0 (Field.all.map texts.get)).map fun (offset, chars) =>
        ⟨offset, chars⟩ := by
  have hwords : ∀ word ∈ Field.all.map texts.get, word ≠ [] ∧ ' ' ∉ word := by
    intro word hword
    obtain ⟨field, -, rfl⟩ := List.mem_map.1 hword
    exact h field
  have htokens := tokens_intercalate (List.cons_ne_nil _ _) hwords
  obtain ⟨fs, hfs⟩ : ∃ fs : Fields Token, Field.all.map fs.get = tokens _ :=
    ⟨⟨_, _, _, _, _, _, _⟩, htokens.symm⟩
  exact ⟨fs, fieldTokens_eq_ok.2 (.inl hfs), hfs.trans htokens⟩

/-- Their tokens hold the words. -/
theorem chars_of_map_get {texts : Fields (List Char)}
    (h : Field.all.map fs.get = (withOffsets 0 (Field.all.map texts.get)).map fun (offset, chars) =>
      ⟨offset, chars⟩) (field : Field) : (fs.get field).chars = texts.get field := by
  have hchars := congrArg (List.map (·.chars)) h
  rw [List.map_map, List.map_map] at hchars
  have hall : Field.all.map (fun field => (fs.get field).chars) = Field.all.map texts.get :=
    hchars.trans (map_withOffsets 0 _)
  exact List.map_inj_left.1 hall field field.mem_all

/-- The token of a field comes after those of the fields before it; that of a year which is
left out comes after all tokens of the text. -/
theorem tokens_of_fieldTokens {earlier later : List Field} (h : fieldTokens text = .ok fs)
    (hall : Field.all = earlier ++ field :: later) :
    (∃ rest, tokens text = earlier.map fs.get ++ fs.get field :: rest) ∨
      field = .year ∧ tokens text = earlier.map fs.get ∧
        fs.get field = ⟨byteLength text, ['*']⟩ := by
  have hmap : Field.all.map fs.get =
      earlier.map fs.get ++ fs.get field :: later.map fs.get := by
    rw [hall, List.map_append, List.map_cons]
  rcases fieldTokens_eq_ok.1 h with htokens | htokens
  · exact .inl ⟨_, htokens.symm.trans hmap⟩
  · rw [hmap] at htokens
    rcases List.eq_nil_or_concat later with rfl | ⟨between, last, rfl⟩
    · obtain ⟨hbefore, hlast⟩ := List.append_inj' htokens rfl
      have hyear : field = .year := by
        have hend := congrArg List.getLast? hall
        simpa [Field.all] using hend.symm
      exact .inr ⟨hyear, hbefore.symm, (List.cons.inj hlast).1⟩
    · rw [List.concat_eq_append, List.map_append, ← List.cons_append, ← List.append_assoc]
        at htokens
      exact .inl ⟨_, (List.append_inj' htokens rfl).1.symm⟩

/-- **A field stands where its token says**, after the fields before it; a year that is left
out stands at the end. -/
theorem exists_of_fieldTokens {earlier later : List Field} (h : fieldTokens text = .ok fs)
    (hall : Field.all = earlier ++ field :: later) :
    ∃ before after, text = before ++ after ∧ byteLength before = (fs.get field).offset ∧
      (∀ c ∈ before, c = ' ' ∨ ∃ other ∈ earlier, c ∈ (fs.get other).chars) ∧
      ((fs.get field).chars <+: after ∨ field = .year ∧ (fs.get field).chars = ['*']) := by
  rcases tokens_of_fieldTokens h hall with ⟨rest, htokens⟩ | ⟨hyear, htokens, hlast⟩
  · obtain ⟨before, after, heq, hoffset, hbefore⟩ := exists_of_tokens htokens
    refine ⟨before, _, heq, hoffset, fun c hc => ?_, .inl (List.prefix_append _ _)⟩
    simpa using hbefore c hc
  · refine ⟨text, [], by simp, by rw [hlast], fun c hc => ?_, .inr ⟨hyear, by rw [hlast]⟩⟩
    simpa [htokens] using exists_token_of_mem hc

end Expression

end CronSchedule
