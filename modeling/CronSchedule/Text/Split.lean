/-!
# Cutting a text at a separator

`split` cuts at every occurrence of a character, so that two neighbouring
separators have an empty piece between them; a text without the separator is
its own only piece. Lengths in bytes are those of the text written as UTF-8.
-/

namespace CronSchedule

namespace Text

/-- The pieces between the occurrences of `separator`; never none at all. -/
def split (separator : Char) : List Char → List (List Char)
  | [] => [[]]
  | c :: rest =>
    if c = separator then [] :: split separator rest
    else match split separator rest with
      | [] => [[c]]
      | piece :: later => (c :: piece) :: later

/-- Number of bytes of a text written as UTF-8. -/
def byteLength : List Char → Nat
  | [] => 0
  | c :: rest => c.utf8Size + byteLength rest

/-- Pieces together with the byte at which each begins, when they are written
one after the other with one-byte separators between them, the first at `start`. -/
def withOffsets (start : Nat) : List (List Char) → List (Nat × List Char)
  | [] => []
  | piece :: later => (start, piece) :: withOffsets (start + byteLength piece + 1) later

theorem split_ne_nil (separator : Char) (text : List Char) : split separator text ≠ [] := by
  cases text with
  | nil => simp [split]
  | cons c rest =>
    simp only [split]
    split
    · simp
    · split <;> simp

/-- Putting the separator back between the pieces gives the text again. -/
theorem intercalate_split (separator : Char) (text : List Char) :
    [separator].intercalate (split separator text) = text := by
  induction text with
  | nil => simp [split]
  | cons c rest ih =>
    simp only [split]
    split
    · rename_i h
      cases hs : split separator rest with
      | nil => exact absurd hs (split_ne_nil _ _)
      | cons piece later =>
        rw [hs] at ih
        simp [← ih, h, List.intercalate]
    · split
      · rename_i hs
        exact absurd hs (split_ne_nil _ _)
      · rename_i piece later hs
        rw [hs] at ih
        cases later <;> simp_all [List.intercalate, List.intersperse]

end Text

end CronSchedule
