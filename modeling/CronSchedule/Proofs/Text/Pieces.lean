import CronSchedule.Text.Split
import Mathlib.Data.List.Basic

/-!
# The pieces of a text

Cutting a text and putting the separator back undo each other (`intercalate_split` and
`split_intercalate`), and a text that is put together from two is cut as each of them is
(`split_append`). `exists_of_withOffsets` says where a piece stands: the offset counts the
bytes of what comes before it, and these are the earlier pieces with their separators.
-/

namespace CronSchedule

namespace Text

variable {separator c : Char} {text piece rest : List Char} {pieces : List (List Char)}
variable {start offset : Nat}

/-! ## Cutting -/

theorem split_of_not_mem (h : separator ∉ text) : split separator text = [text] := by
  induction text with
  | nil => rfl
  | cons first rest ih =>
    obtain ⟨hfirst, hrest⟩ := not_or.1 (List.mem_cons.not.1 h)
    rw [split, if_neg (Ne.symm hfirst), ih hrest]

/-- The pieces hold what the text holds, apart from the separator. -/
theorem exists_mem_split (hc : c ≠ separator) :
    (∃ piece ∈ split separator text, c ∈ piece) ↔ c ∈ text := by
  induction text with
  | nil => simp [split]
  | cons first rest ih =>
    simp only [split]
    split
    · rename_i hfirst
      simp [ih, hfirst, hc]
    · cases hs : split separator rest with
      | nil => exact absurd hs (split_ne_nil _ _)
      | cons piece later =>
        simp only [hs, List.mem_cons, exists_eq_or_imp] at ih ⊢
        rw [or_assoc, ih]

/-- No piece has the separator in it. -/
theorem not_mem_of_mem_split (h : piece ∈ split separator text) : separator ∉ piece := by
  induction text generalizing piece with
  | nil =>
    obtain rfl := List.mem_singleton.1 h
    exact List.not_mem_nil
  | cons c rest ih =>
    simp only [split] at h
    split at h
    · rcases List.mem_cons.1 h with rfl | hrest
      · exact List.not_mem_nil
      · exact ih hrest
    · rename_i hc
      cases hs : split separator rest with
      | nil => exact absurd hs (split_ne_nil _ _)
      | cons first later =>
        rw [hs] at h ih
        rcases List.mem_cons.1 h with rfl | hlater
        · simp [Ne.symm hc, ih]
        · exact ih (List.mem_cons_of_mem _ hlater)

/-- **Two texts with a separator between them** have the pieces of both. -/
theorem split_append (separator : Char) (first second : List Char) :
    split separator (first ++ separator :: second) =
      split separator first ++ split separator second := by
  induction first with
  | nil => simp [split]
  | cons c rest ih =>
    simp only [List.cons_append, split, ih]
    split
    · rfl
    · cases hs : split separator rest with
      | nil => exact absurd hs (split_ne_nil _ _)
      | cons piece later => rfl

/-- **Pieces without the separator** are what their text is cut into. -/
theorem split_intercalate (hne : pieces ≠ []) (h : ∀ piece ∈ pieces, separator ∉ piece) :
    split separator ([separator].intercalate pieces) = pieces := by
  induction pieces with
  | nil => exact absurd rfl hne
  | cons first later ih =>
    obtain ⟨hfirst, hlater⟩ := List.forall_mem_cons.1 h
    cases later with
    | nil => rw [List.intercalate_singleton, split_of_not_mem hfirst]
    | cons next later =>
      rw [List.intercalate_cons_cons, List.append_assoc, List.singleton_append, split_append,
        split_of_not_mem hfirst, ih (List.cons_ne_nil _ _) hlater, List.singleton_append]

/-! ## Counting bytes -/

theorem byteLength_append (first second : List Char) :
    byteLength (first ++ second) = byteLength first + byteLength second := by
  induction first with
  | nil => simp [byteLength]
  | cons c rest ih => simp only [List.cons_append, byteLength, ih, Nat.add_assoc]

theorem byteLength_pos (h : text ≠ []) : 0 < byteLength text := by
  obtain ⟨c, rest, rfl⟩ := List.exists_cons_of_ne_nil h
  have := c.utf8Size_pos
  simp only [byteLength]
  omega

/-- The text is written in ASCII. -/
def IsAscii (text : List Char) : Prop :=
  ∀ c ∈ text, c.toNat < 128

/-- **In ASCII every character is a byte.** -/
theorem IsAscii.byteLength (h : IsAscii text) : byteLength text = text.length := by
  induction text with
  | nil => rfl
  | cons c rest ih =>
    obtain ⟨hc, hrest⟩ := List.forall_mem_cons.1 h
    have hsize : c.utf8Size = 1 :=
      Char.utf8Size_eq_one_iff.2 (UInt32.le_iff_toNat_le.2 (Nat.le_of_lt_succ hc))
    rw [Text.byteLength, hsize, ih hrest, List.length_cons, Nat.add_comm]

theorem IsAscii.append {first second : List Char} (h : IsAscii first) (h' : IsAscii second) :
    IsAscii (first ++ second) :=
  List.forall_mem_append.2 ⟨h, h'⟩

/-! ## Where the pieces stand -/

theorem map_withOffsets (start : Nat) (pieces : List (List Char)) :
    (withOffsets start pieces).map (·.2) = pieces := by
  induction pieces generalizing start with
  | nil => rfl
  | cons piece later ih => simp [withOffsets, ih]

/-- **A piece stands where its offset says**, after the earlier ones. -/
theorem exists_of_withOffsets {earlier later : List (Nat × List Char)}
    (hseparator : separator.utf8Size = 1)
    (h : withOffsets start pieces = earlier ++ (offset, piece) :: later) :
    ∃ before after, [separator].intercalate pieces = before ++ (piece ++ after) ∧
      start + byteLength before = offset ∧
      ∀ c ∈ before, c = separator ∨ ∃ other ∈ earlier, c ∈ other.2 := by
  induction pieces generalizing start earlier with
  | nil => simp [withOffsets] at h
  | cons first rest ih =>
    rw [withOffsets] at h
    cases earlier with
    | nil =>
      obtain ⟨heq, -⟩ := List.cons.inj h
      obtain ⟨rfl, rfl⟩ := Prod.mk.inj heq
      cases rest with
      | nil => exact ⟨[], [], by simp, rfl, by simp⟩
      | cons next rest =>
        exact ⟨[], [separator] ++ [separator].intercalate (next :: rest),
          by rw [List.intercalate_cons_cons, List.append_assoc, List.nil_append], rfl, by simp⟩
    | cons head earlier =>
      obtain ⟨rfl, hrest⟩ := List.cons.inj h
      cases rest with
      | nil => simp [withOffsets] at hrest
      | cons next rest =>
        obtain ⟨before, after, heq, hoffset, hbefore⟩ := ih hrest
        refine ⟨first ++ separator :: before, after, ?_, ?_, ?_⟩
        · rw [List.intercalate_cons_cons, heq]
          simp
        · rw [byteLength_append, byteLength, hseparator]
          omega
        · intro c hc
          rcases List.mem_append.1 hc with hfirst | hc
          · exact .inr ⟨_, List.mem_cons_self, hfirst⟩
          · rcases List.mem_cons.1 hc with rfl | hc
            · exact .inl rfl
            · obtain rfl | ⟨other, hother, hmem⟩ := hbefore c hc
              · exact .inl rfl
              · exact .inr ⟨other, List.mem_cons_of_mem _ hother, hmem⟩

/-- Each piece lies within the text that they make up with commas between them. -/
theorem bounds_of_mem_withOffsets (h : (offset, piece) ∈ withOffsets start pieces) :
    start ≤ offset ∧ offset + byteLength piece ≤ start + byteLength ([','].intercalate pieces) := by
  obtain ⟨earlier, later, hsplit⟩ := List.append_of_mem h
  obtain ⟨before, after, heq, hoffset, -⟩ :=
    exists_of_withOffsets (by decide : Char.utf8Size ',' = 1) hsplit
  rw [heq, byteLength_append, byteLength_append]
  omega

end Text

end CronSchedule
