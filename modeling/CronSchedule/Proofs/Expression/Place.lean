import CronSchedule.Proofs.Expression.Normal
import CronSchedule.Proofs.Expression.Quotation

/-!
# Where the faults of a field are placed

A reader never looks at the position that it counts, so what it makes of a text is the same
wherever the text begins, and a fault keeps its place in it. It goes on from ASCII
characters only, which are a byte each, so the place counts bytes as well. Two runs on one
text are compared: the cursors stay beside each other (`Beside`), and the results are alike
(`Alike`), reader by reader up to the items of a field (`readItems_alike`).
-/

namespace CronSchedule

namespace Expression

open Text

variable {chars : List Char} {first second yearLimit : Nat} {field : Field} {fault : Fault}
variable {α β : Type}

/-! ## Two runs on one text -/

/-- Two cursors that have read the same ASCII characters of one text, which begins at two
positions. -/
inductive Beside (chars : List Char) (first second : Nat) : Cursor → Cursor → Prop
  | intro {passed rest : List Char} : chars = passed ++ rest → IsAscii passed →
    Beside chars first second ⟨rest, first + passed.length⟩ ⟨rest, second + passed.length⟩

/-- **Two results of reading one text at two positions**: the same, or the same fault at the
same place of the text, which follows ASCII characters only and begins with what the
message quotes. -/
inductive Alike (chars : List Char) (first second : Nat) (Same : α → α → Prop) :
    Except ExpressionError α → Except ExpressionError α → Prop
  | ok {a b : α} : Same a b → Alike chars first second Same (.ok a) (.ok b)
  | error {passed rest : List Char} {fault : Fault} : chars = passed ++ rest → IsAscii passed →
    (∀ quoted ∈ fault.quotation?, quoted.toList <+: rest) →
    Alike chars first second Same (.error ⟨fault, first + passed.length⟩)
      (.error ⟨fault, second + passed.length⟩)

/-- The same value, and cursors beside each other behind it. -/
def SameRead (chars : List Char) (first second : Nat) (a b : Nat × Cursor) : Prop :=
  a.1 = b.1 ∧ Beside chars first second a.2 b.2

section

variable {Same : α → α → Prop} {Same' : β → β → Prop}

theorem Alike.bind {x y : Except ExpressionError α} {f g : α → Except ExpressionError β}
    (h : Alike chars first second Same x y)
    (hnext : ∀ a b, x = .ok a → y = .ok b → Same a b → Alike chars first second Same' (f a) (g b)) :
    Alike chars first second Same' (x >>= f) (y >>= g) := by
  cases h with
  | ok hsame => exact hnext _ _ rfl rfl hsame
  | error hchars hascii hquoted => exact .error hchars hascii hquoted

/-- A check that fails in both, or in neither. -/
theorem Alike.guard {c : Prop} [Decidable c] {x y : Except ExpressionError α}
    {u v : Except ExpressionError β} {f g : β → Except ExpressionError α}
    (hfail : Alike chars first second (fun _ _ => False) u v)
    (h : ¬ c → Alike chars first second Same x y) :
    Alike chars first second Same (if c then u >>= f else x) (if c then v >>= g else y) := by
  split
  · exact hfail.bind fun _ _ _ _ hnever => hnever.elim
  · exact h ‹_›

end

/-! ## The readers -/

namespace Beside

variable {a b : Cursor} {Same : α → α → Prop}

theorem rest_eq (h : Beside chars first second a b) : a.rest = b.rest := by
  cases h
  rfl

theorem peek?_eq (h : Beside chars first second a b) : a.peek? = b.peek? := by
  cases h
  rfl

theorem skip {n : Nat} (h : Beside chars first second a b) (hascii : IsAscii (a.rest.take n))
    (hn : n ≤ a.rest.length) : Beside chars first second (a.skip n) (b.skip n) := by
  obtain @⟨passed, rest, hchars, hpassed⟩ := h
  have hlength : (passed ++ rest.take n).length = passed.length + n := by
    rw [List.length_append, List.length_take, Nat.min_eq_left hn]
  have hsplit : chars = (passed ++ rest.take n) ++ rest.drop n := by
    rw [List.append_assoc, List.take_append_drop, hchars]
  have hmoved : Beside chars first second _ _ := .intro hsplit (hpassed.append hascii)
  rw [hlength, ← Nat.add_assoc, ← Nat.add_assoc] at hmoved
  exact hmoved

theorem skip_one {c : Char} (h : Beside chars first second a b) (hc : a.peek? = some c)
    (hascii : c.toNat < 128) : Beside chars first second (a.skip 1) (b.skip 1) := by
  rw [Cursor.peek?, List.head?_eq_some_iff] at hc
  obtain ⟨later, hrest⟩ := hc
  refine h.skip ?_ ?_
  · rw [hrest]
    simpa [IsAscii] using hascii
  · simp [hrest]

theorem fail (h : Beside chars first second a b)
    (hquoted : ∀ quoted ∈ fault.quotation?, quoted.toList <+: a.rest) :
    Alike chars first second Same (a.fail fault) (b.fail fault) := by
  obtain @⟨passed, rest, hchars, hpassed⟩ := h
  exact .error hchars hpassed hquoted

/-- A fault that quotes nothing. -/
theorem fail_plain (h : Beside chars first second a b) (hplain : fault.quotation? = none) :
    Alike chars first second Same (a.fail fault) (b.fail fault) :=
  h.fail (by simp [hplain])

theorem failUnexpected (h : Beside chars first second a b) :
    Alike chars first second Same a.failUnexpected b.failUnexpected := by
  unfold Cursor.failUnexpected
  rw [← h.peek?_eq]
  cases hc : a.peek? with
  | none => exact h.fail_plain rfl
  | some c =>
    refine h.fail ?_
    simp [Fault.quotation?, Cursor.rest_of_peek? hc]

theorem expectEnd (h : Beside chars first second a b) :
    Alike chars first second (fun _ _ => True) a.expectEnd b.expectEnd := by
  unfold Cursor.expectEnd
  rw [← h.rest_eq]
  split
  · exact .ok trivial
  · exact h.failUnexpected

theorem readNumber (h : Beside chars first second a b) :
    Alike chars first second (SameRead chars first second) a.readNumber b.readNumber := by
  have hdigits : IsAscii (a.rest.takeWhile Char.isDigit) := fun c hc =>
    IsFieldChar.toNat_lt (.inl (List.mem_takeWhile_imp hc))
  have hprefix := List.takeWhile_prefix Char.isDigit (l := a.rest)
  unfold Cursor.readNumber
  simp only [← h.rest_eq]
  split
  · exact h.failUnexpected
  · split
    · exact h.fail (by simpa [Fault.quotation?] using hprefix)
    · refine .ok ⟨rfl, h.skip ?_ hprefix.length_le⟩
      rwa [← List.prefix_iff_eq_take.1 hprefix]

theorem readName (field : Field) (h : Beside chars first second a b) :
    Alike chars first second (SameRead chars first second) (a.readName field)
      (b.readName field) := by
  have hprefix : (String.ofList (a.rest.take 3)).toList <+: a.rest := by
    rw [String.toList_ofList]
    exact List.take_prefix 3 _
  unfold Cursor.readName
  simp only [← h.rest_eq]
  split
  · exact h.fail (by simpa [Fault.quotation?] using hprefix)
  · rename_i hletters
    rw [not_or, not_not, List.all_eq_true, List.length_take] at hletters
    cases hvalue : field.valueOfName? (String.ofList (a.rest.take 3)) with
    | some value =>
      refine .ok ⟨rfl, h.skip (fun c hc => ?_) (by omega)⟩
      exact IsFieldChar.toNat_lt (.inr (.inl (hletters.2 c hc)))
    | none => cases field <;> exact h.fail (by simpa [Fault.quotation?] using hprefix)

theorem readValue (field : Field) (h : Beside chars first second a b) :
    Alike chars first second (SameRead chars first second) (a.readValue field)
      (b.readValue field) := by
  unfold Cursor.readValue
  rw [← h.peek?_eq]
  cases a.peek? with
  | none => exact h.failUnexpected
  | some c =>
    dsimp only
    split
    · exact h.readNumber
    · split
      · exact h.readName field
      · exact h.failUnexpected

theorem readStep (field : Field) (h : Beside chars first second a b) :
    Alike chars first second (SameRead chars first second) (a.readStep field)
      (b.readStep field) := by
  unfold Cursor.readStep
  rw [← h.rest_eq]
  refine (h.fail_plain rfl).guard fun _ => h.readNumber.bind ?_
  rintro ⟨step, after⟩ ⟨_, after'⟩ - - ⟨rfl, hafter⟩
  exact (h.fail_plain rfl).guard fun _ => (h.fail_plain rfl).guard fun _ => .ok ⟨rfl, hafter⟩

theorem checkRange (yearLimit : Nat) (field : Field) (n : Nat) (h : Beside chars first second a b) :
    Alike chars first second (fun _ _ => True) (checkRange yearLimit field a.position n)
      (checkRange yearLimit field b.position n) := by
  unfold Expression.checkRange
  split
  · exact h.fail_plain rfl
  · exact .ok trivial

theorem checkedRange (yearLimit : Nat) (field : Field) (start : Nat) (stop : Option Nat)
    (step : Nat) (h : Beside chars first second a b) :
    Alike chars first second Eq (checkedRange yearLimit field a.position start stop step)
      (checkedRange yearLimit field b.position start stop step) := by
  unfold Expression.checkedRange
  refine (h.checkRange yearLimit field start).bind fun _ _ _ _ _ => ?_
  have hyears : Alike chars first second Eq
      (if stop.getD (field.greatest yearLimit) < start ∧ field.cycle?.isNone then
        a.fail .yearsReversed >>= fun (_ : Unit) => pure (.range start stop step)
        else pure (Item.range start stop step))
      (if stop.getD (field.greatest yearLimit) < start ∧ field.cycle?.isNone then
        b.fail .yearsReversed >>= fun (_ : Unit) => pure (.range start stop step)
        else pure (Item.range start stop step)) :=
    (h.fail_plain rfl).guard fun _ => .ok rfl
  cases stop with
  | none => exact hyears
  | some last => exact (h.checkRange yearLimit field last).bind fun _ _ _ _ _ => hyears

theorem readUnspecified (h : Beside chars first second a b) (hc : a.peek? = some '?') :
    Alike chars first second Eq (readUnspecified field a) (readUnspecified field b) := by
  have hafter := h.skip_one hc (by decide)
  unfold Expression.readUnspecified
  simp only [← hafter.rest_eq]
  exact (hafter.fail_plain rfl).guard fun _ => (hafter.fail_plain rfl).guard fun _ => .ok rfl

theorem readWildcard (yearLimit : Nat) (field : Field) (h : Beside chars first second a b) :
    Alike chars first second Eq (readWildcard yearLimit field a)
      (readWildcard yearLimit field b) := by
  have hafter : Beside chars first second (if a.peek? = some '*' then a.skip 1 else a)
      (if b.peek? = some '*' then b.skip 1 else b) := by
    rw [← h.peek?_eq]
    split
    · exact h.skip_one ‹_› (by decide)
    · exact h
  unfold Expression.readWildcard
  generalize (if a.peek? = some '*' then a.skip 1 else a) = after at hafter ⊢
  generalize (if b.peek? = some '*' then b.skip 1 else b) = after' at hafter ⊢
  simp only [← h.peek?_eq, ← hafter.peek?_eq, ← hafter.rest_eq]
  split
  · exact .ok rfl
  · refine hafter.failUnexpected.guard fun hslash => ?_
    refine ((hafter.skip_one (not_not.1 hslash) (by decide)).readStep field).bind ?_
    rintro ⟨step, last⟩ ⟨_, last'⟩ - - ⟨rfl, hlast⟩
    exact hlast.expectEnd.bind fun _ _ _ _ _ => h.checkedRange ..

theorem lastDay_suffix {offset : Nat} (h : Beside chars first second a b) :
    Alike chars first second Eq
      (if a.peek? = some 'W' then do
        (a.skip 1).expectEnd
        pure (Item.lastDay offset true)
      else do
        a.expectEnd
        pure (Item.lastDay offset false))
      (if b.peek? = some 'W' then do
        (b.skip 1).expectEnd
        pure (Item.lastDay offset true)
      else do
        b.expectEnd
        pure (Item.lastDay offset false)) := by
  rw [← h.peek?_eq]
  split
  · exact (h.skip_one ‹_› (by decide)).expectEnd.bind fun _ _ _ _ _ => .ok rfl
  · exact h.expectEnd.bind fun _ _ _ _ _ => .ok rfl

theorem readLastDay (h : Beside chars first second a b) (hc : a.peek? = some 'L') :
    Alike chars first second Eq (readLastDay a) (readLastDay b) := by
  have hafter := h.skip_one hc (by decide)
  simp only [Expression.readLastDay]
  rw [← hafter.peek?_eq]
  split
  · refine (hafter.skip_one ‹_› (by decide)).readNumber.bind ?_
    rintro ⟨offset, last⟩ ⟨_, last'⟩ - - ⟨rfl, hlast⟩
    exact (hlast.fail_plain rfl).guard fun _ => hlast.lastDay_suffix
  · simp only [pure_bind]
    exact (hafter.fail_plain rfl).guard fun _ => hafter.lastDay_suffix

theorem readLast (yearLimit : Nat) (field : Field) (h : Beside chars first second a b)
    (hc : a.peek? = some 'L') :
    Alike chars first second Eq (readLast yearLimit field a) (readLast yearLimit field b) := by
  cases field with
  | dayOfMonth => exact h.readLastDay hc
  | dayOfWeek => exact (h.skip_one hc (by decide)).expectEnd.bind fun _ _ _ _ _ => .ok rfl
  | _ => exact h.fail_plain rfl

/-- The end of an item that has to be in its field. -/
theorem checked_end {item : Item} {start : Nat} {last last' : Cursor} (yearLimit : Nat)
    (field : Field) (h : Beside chars first second a b)
    (hlast : Beside chars first second last last') :
    Alike chars first second Eq
      (do last.expectEnd; Expression.checkRange yearLimit field a.position start; pure item)
      (do last'.expectEnd; Expression.checkRange yearLimit field b.position start; pure item) :=
  hlast.expectEnd.bind fun _ _ _ _ _ => (h.checkRange ..).bind fun _ _ _ _ _ => .ok rfl

theorem readValues (yearLimit : Nat) (field : Field) (h : Beside chars first second a b) :
    Alike chars first second Eq (readValues yearLimit field a)
      (readValues yearLimit field b) := by
  simp only [Expression.readValues]
  refine (h.readValue field).bind ?_
  rintro ⟨start, after⟩ ⟨_, after'⟩ - - ⟨rfl, hafter⟩
  simp only [← hafter.peek?_eq]
  split
  · exact (h.checkRange ..).bind fun _ _ _ _ _ => .ok rfl
  · exact (hafter.fail_plain rfl).guard fun _ =>
      h.checked_end yearLimit field (hafter.skip_one ‹_› (by decide))
  · exact (hafter.fail_plain rfl).guard fun _ => (h.fail_plain rfl).guard fun _ =>
      h.checked_end yearLimit field (hafter.skip_one ‹_› (by decide))
  · refine (hafter.fail_plain rfl).guard fun _ => ?_
    have hbehind := hafter.skip_one ‹_› (by decide)
    have hnth := hbehind.readNumber
    generalize (after.skip 1).readNumber = x at hnth ⊢
    generalize (after'.skip 1).readNumber = y at hnth ⊢
    cases hnth with
    | error => exact hbehind.fail_plain rfl
    | @ok a b hsame =>
      obtain ⟨nth, last⟩ := a
      obtain ⟨_, last'⟩ := b
      obtain ⟨rfl, hlast⟩ := hsame
      exact (hbehind.fail_plain rfl).guard fun _ => h.checked_end yearLimit field hlast
  · refine ((hafter.skip_one ‹_› (by decide)).readValue field).bind ?_
    rintro ⟨stop, last⟩ ⟨_, last'⟩ - - ⟨rfl, hlast⟩
    simp only [← hlast.peek?_eq]
    split
    · refine ((hlast.skip_one ‹_› (by decide)).readStep field).bind ?_
      rintro ⟨step, final⟩ ⟨_, final'⟩ - - ⟨rfl, hfinal⟩
      exact hfinal.expectEnd.bind fun _ _ _ _ _ => h.checkedRange ..
    · exact hlast.expectEnd.bind fun _ _ _ _ _ => h.checkedRange ..
  · refine ((hafter.skip_one ‹_› (by decide)).readStep field).bind ?_
    rintro ⟨step, last⟩ ⟨_, last'⟩ - - ⟨rfl, hlast⟩
    exact hlast.expectEnd.bind fun _ _ _ _ _ => h.checkedRange ..
  · exact hafter.failUnexpected

end Beside

/-- **One item, read at two positions.** -/
theorem readItem_alike (yearLimit : Nat) (field : Field) (chars : List Char) (first second : Nat) :
    Alike chars first second Eq (readItem yearLimit field ⟨first, chars⟩)
      (readItem yearLimit field ⟨second, chars⟩) := by
  have h : Beside chars first second ⟨chars, first⟩ ⟨chars, second⟩ :=
    .intro (List.nil_append _).symm (by simp [IsAscii])
  unfold readItem
  simp only [← h.peek?_eq]
  split
  · exact h.fail_plain rfl
  · exact h.readUnspecified ‹_›
  · exact h.readWildcard ..
  · exact h.readWildcard ..
  · exact h.readLast _ _ ‹_›
  · exact h.readValues ..

/-! ## The items of a field -/

/-- What a rule about the list as a whole says quotes nothing. -/
theorem quotation?_of_listFault? (h : listFault? field chars = some fault) :
    fault.quotation? = none := by
  simp only [listFault?] at h
  split at h
  · cases h
    rfl
  · cases field <;> grind [Fault.quotation?]

/-- What is alike in a piece is alike in the whole text, if ASCII stands before it. -/
theorem Alike.within {before piece after : List Char} {Same : α → α → Prop}
    {x y : Except ExpressionError α}
    (h : Alike piece (first + before.length) (second + before.length) Same x y)
    (hchars : chars = before ++ (piece ++ after)) (hbefore : IsAscii before) :
    Alike chars first second Same x y := by
  cases h with
  | ok hsame => exact .ok hsame
  | @error passed rest fault hpiece hpassed hquoted =>
    have hsplit : chars = (before ++ passed) ++ (rest ++ after) := by
      rw [hchars, hpiece]
      simp only [List.append_assoc]
    have hfault : Alike chars first second Same _ _ := .error hsplit (hbefore.append hpassed)
      fun quoted hmem => (hquoted quoted hmem).trans (List.prefix_append _ _)
    rw [List.length_append, ← Nat.add_assoc, ← Nat.add_assoc] at hfault
    exact hfault

/-- The characters of an item that has been read are all in ASCII. -/
theorem isAscii_of_readItem {token : Token} {item : Item}
    (h : readItem yearLimit field token = .ok item) : IsAscii token.chars := by
  intro c hc
  rcases readItem_spec h with hlist | hlone
  · exact (hlist.isFieldChar c hc).toNat_lt
  · exact (hlone.isFieldChar c hc).toNat_lt

/-- The items of a list are read one after the other. As long as they are read, they are in
ASCII, and the next one stands as many bytes further on as there are characters. -/
theorem mapM_readItem_alike (yearLimit : Nat) (field : Field) {before : List Char}
    {pieces : List (List Char)} (hchars : chars = before ++ [','].intercalate pieces)
    (hbefore : IsAscii before) :
    Alike chars first second Eq
      (((withOffsets (first + before.length) pieces).map fun (offset, chars) =>
        (⟨offset, chars⟩ : Token)).mapM (readItem yearLimit field))
      (((withOffsets (second + before.length) pieces).map fun (offset, chars) =>
        (⟨offset, chars⟩ : Token)).mapM (readItem yearLimit field)) := by
  induction pieces generalizing before with
  | nil => exact .ok rfl
  | cons piece later ih =>
    obtain ⟨after, hafter⟩ : ∃ after, chars = before ++ (piece ++ after) := by
      cases later with
      | nil => exact ⟨[], by simpa using hchars⟩
      | cons next later => exact ⟨_, by rw [hchars, List.intercalate_cons_cons, List.append_assoc]⟩
    simp only [withOffsets, List.map_cons, List.mapM_cons]
    refine ((readItem_alike ..).within hafter hbefore).bind fun item _ hitem _ heq => ?_
    subst heq
    have hpiece : IsAscii piece := isAscii_of_readItem hitem
    have hrest : Alike chars first second Eq
        (((withOffsets (first + before.length + byteLength piece + 1) later).map
          fun (offset, chars) => (⟨offset, chars⟩ : Token)).mapM (readItem yearLimit field))
        (((withOffsets (second + before.length + byteLength piece + 1) later).map
          fun (offset, chars) => (⟨offset, chars⟩ : Token)).mapM (readItem yearLimit field)) := by
      cases later with
      | nil => exact .ok rfl
      | cons next later =>
        have hlength : ∀ start, start + before.length + byteLength piece + 1 =
            start + (before ++ (piece ++ [','])).length := by
          intro start
          simp only [hpiece.byteLength, List.length_append, List.length_singleton]
          omega
        rw [hlength, hlength]
        refine ih ?_ (hbefore.append (hpiece.append (by simp [IsAscii])))
        rw [hchars, List.intercalate_cons_cons]
        simp only [List.append_assoc]
    refine hrest.bind fun items _ _ _ heq => ?_
    exact .ok (heq ▸ rfl)

/-- **One field, read at two positions.** -/
theorem readItems_alike (yearLimit : Nat) (field : Field) (chars : List Char)
    (first second : Nat) :
    Alike chars first second Eq (readItems yearLimit field ⟨first, chars⟩)
      (readItems yearLimit field ⟨second, chars⟩) := by
  unfold readItems
  cases hfault : listFault? field chars with
  | some fault =>
    refine .error (List.nil_append chars).symm (by simp [IsAscii]) ?_
    simp [quotation?_of_listFault? hfault]
  | none =>
    have hwhole : chars = [] ++ [','].intercalate (split ',' chars) := by
      rw [intercalate_split, List.nil_append]
    exact mapM_readItem_alike yearLimit field hwhole (by simp [IsAscii])

/-- **Where a field is at fault.** The characters before that place are in ASCII, and what
the message quotes stands there. -/
theorem place_of_readItems {token : Token} {error : ExpressionError}
    (h : readItems yearLimit field token = .error error) :
    ∃ passed rest, token.chars = passed ++ rest ∧ IsAscii passed ∧
      error.position = token.offset + passed.length ∧
      ∀ quoted ∈ error.fault.quotation?, quoted.toList <+: rest := by
  have halike := readItems_alike yearLimit field token.chars token.offset token.offset
  rw [show readItems yearLimit field ⟨token.offset, token.chars⟩ = .error error from h] at halike
  cases halike with
  | error hchars hpassed hquoted => exact ⟨_, _, hchars, hpassed, rfl, hquoted⟩

/-- The characters of a field that has been read are all in ASCII. -/
theorem isAscii_of_readItems {token : Token} {items : List Item}
    (h : readItems yearLimit field token = .ok items) : IsAscii token.chars := by
  unfold readItems at h
  split at h
  · cases h
  · intro c hc
    by_cases hcomma : c = ','
    · rw [hcomma]
      decide
    · obtain ⟨chars, hchars, hmem⟩ := (exists_mem_split hcomma).2 hc
      rw [← Token.map_items] at hchars
      obtain ⟨piece, hpiece, rfl⟩ := List.mem_map.1 hchars
      obtain ⟨item, hitem⟩ := exists_of_forall₂ (mapM_eq_ok.1 h).flip hpiece
      exact isAscii_of_readItem hitem c hmem

/-- **A field that is read** is read wherever it begins. -/
theorem readItems_ok_moved {items : List Item} (second : Nat)
    (h : readItems yearLimit field ⟨first, chars⟩ = .ok items) :
    readItems yearLimit field ⟨second, chars⟩ = .ok items := by
  have halike := readItems_alike yearLimit field chars first second
  rw [h] at halike
  generalize readItems yearLimit field ⟨second, chars⟩ = result at halike ⊢
  cases halike with
  | ok hsame => rw [hsame]

/-- **A field that fails** fails wherever it begins, at the same place in it. -/
theorem readItems_error_moved {error : ExpressionError} (second : Nat)
    (h : readItems yearLimit field ⟨first, chars⟩ = .error error) :
    ∃ place, error.position = first + place ∧
      readItems yearLimit field ⟨second, chars⟩ = .error ⟨error.fault, second + place⟩ := by
  have halike := readItems_alike yearLimit field chars first second
  rw [h] at halike
  generalize readItems yearLimit field ⟨second, chars⟩ = result at halike ⊢
  cases halike with
  | error => exact ⟨_, rfl, rfl⟩

end Expression

end CronSchedule
