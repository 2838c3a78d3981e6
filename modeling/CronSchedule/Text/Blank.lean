/-!
# Blanks and words

White space is what separates words, in any script: the blanks, tabs and line
ends of ASCII and the spaces of other widths. `words` cuts a text at white
space, so that no word holds any, and `trim` takes it off both ends.
-/

namespace CronSchedule

namespace Text

/-- The character is white space. -/
def isBlank (c : Char) : Bool :=
  let code := c.toNat
  (0x9 ≤ code && code ≤ 0xd) || code == 0x20 || code == 0x85 || code == 0xa0 ||
    code == 0x1680 || (0x2000 ≤ code && code ≤ 0x200a) || code == 0x2028 || code == 0x2029 ||
    code == 0x202f || code == 0x205f || code == 0x3000

/-- The text without the white space it begins with. -/
def dropBlanks (text : List Char) : List Char :=
  text.dropWhile isBlank

/-- The text without the white space at its ends. -/
def trim (text : List Char) : List Char :=
  (dropBlanks (dropBlanks text).reverse).reverse

/-- The pieces of a text between its white space. -/
def words (text : List Char) : List (List Char) :=
  match h : dropBlanks text with
  | [] => []
  | c :: rest =>
    have : (rest.dropWhile (!isBlank ·)).length < text.length := by
      have h₁ : (rest.dropWhile (!isBlank ·)).length ≤ rest.length :=
        (List.dropWhile_sublist _).length_le
      have h₂ : (c :: rest).length ≤ text.length :=
        h ▸ (List.dropWhile_sublist isBlank).length_le
      simp only [List.length_cons] at h₂
      omega
    (c :: rest.takeWhile (!isBlank ·)) :: words (rest.dropWhile (!isBlank ·))
termination_by text.length

/-- What core calls white space is white space here. -/
theorem isBlank_of_isWhitespace {c : Char} (h : c.isWhitespace = true) : isBlank c = true := by
  simp only [Char.isWhitespace, Bool.or_eq_true, decide_eq_true_eq] at h
  rcases h with ((rfl | rfl) | rfl) | rfl <;> decide

end Text

end CronSchedule
