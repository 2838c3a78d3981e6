/-!
# Sets of field values

The values that a field may take, in increasing order and each once, together
with two marks: the field was written as a bare `*`, or as `?`. A search only
ever asks for the least member that is not below a value (`next?`); `insert`
keeps the order, and `mem_insert` says what it adds.
-/

namespace CronSchedule

/-- The values that a field may take. -/
structure ValueSet where
  /-- The members, in increasing order. -/
  values : List Nat
  sorted : values.Pairwise (· < ·)
  /-- The field was written as a bare `*`. -/
  isAll : Bool
  /-- The field was written as `?`. -/
  isUnspecified : Bool
deriving DecidableEq, Repr

namespace ValueSet

/-- The set without members and without marks. -/
def empty : ValueSet := ⟨[], .nil, false, false⟩

/-- A list in increasing order with one more member. -/
def insertInOrder (value : Nat) : List Nat → List Nat
  | [] => [value]
  | first :: rest =>
    if value < first then value :: first :: rest
    else if value = first then first :: rest
    else first :: insertInOrder value rest

theorem mem_insertInOrder {value x : Nat} {values : List Nat} :
    x ∈ insertInOrder value values ↔ x = value ∨ x ∈ values := by
  induction values with
  | nil => simp [insertInOrder]
  | cons first rest ih =>
    simp only [insertInOrder]
    split
    · simp
    · split
      · simp_all
      · simp only [List.mem_cons, ih]
        exact or_left_comm

theorem pairwise_insertInOrder {value : Nat} {values : List Nat}
    (h : values.Pairwise (· < ·)) : (insertInOrder value values).Pairwise (· < ·) := by
  induction values with
  | nil => simp [insertInOrder]
  | cons first rest ih =>
    have ⟨hfirst, hrest⟩ := List.pairwise_cons.1 h
    simp only [insertInOrder]
    split
    · rename_i hlt
      refine List.pairwise_cons.2 ⟨fun x hx => ?_, h⟩
      rcases List.mem_cons.1 hx with rfl | hx
      · exact hlt
      · exact Nat.lt_trans hlt (hfirst x hx)
    · split
      · exact h
      · refine List.pairwise_cons.2 ⟨fun x hx => ?_, ih hrest⟩
        rcases mem_insertInOrder.1 hx with rfl | hx
        · omega
        · exact hfirst x hx

/-- The set with one more member. -/
def insert (set : ValueSet) (value : Nat) : ValueSet :=
  { set with
    values := insertInOrder value set.values
    sorted := pairwise_insertInOrder set.sorted }

/-- The set with all these members added. -/
def insertAll (set : ValueSet) (values : List Nat) : ValueSet :=
  values.foldr (fun value set => set.insert value) set

/-- The set marked as a bare `*`. -/
def markAll (set : ValueSet) : ValueSet := { set with isAll := true }

/-- The set marked as `?`. -/
def markUnspecified (set : ValueSet) : ValueSet := { set with isUnspecified := true }

/-- Membership. -/
def contains (set : ValueSet) (value : Nat) : Bool :=
  set.values.contains value

/-- Neither a member nor `?` was ever put in. -/
def isEmpty (set : ValueSet) : Bool :=
  set.values.isEmpty && !set.isUnspecified

/-- Number of members. -/
def size (set : ValueSet) : Nat :=
  set.values.length

/-- The least member. -/
def first? (set : ValueSet) : Option Nat :=
  set.values.head?

/-- The greatest member. -/
def last? (set : ValueSet) : Option Nat :=
  set.values.getLast?

/-- The least member that is not below `value`. -/
def next? (set : ValueSet) (value : Nat) : Option Nat :=
  set.values.find? (value ≤ ·)

/-- The least distance between two neighbouring members. -/
def leastGap? (set : ValueSet) : Option Nat :=
  (List.zipWith (fun a b => b - a) set.values set.values.tail).min?

/-- The set as an expression would write it: `?`, `*`, or the members between
commas. -/
def text (set : ValueSet) : String :=
  if set.isUnspecified then "?"
  else if set.isAll then "*"
  else ",".intercalate (set.values.map toString)

instance : ToString ValueSet := ⟨text⟩

@[simp] theorem mem_insert {set : ValueSet} {value x : Nat} :
    x ∈ (set.insert value).values ↔ x = value ∨ x ∈ set.values :=
  mem_insertInOrder

@[simp] theorem mem_insertAll {set : ValueSet} {values : List Nat} {x : Nat} :
    x ∈ (set.insertAll values).values ↔ x ∈ values ∨ x ∈ set.values := by
  induction values with
  | nil => simp [insertAll]
  | cons value rest ih =>
    simp only [insertAll, List.foldr_cons, mem_insert, List.mem_cons] at ih ⊢
    rw [ih, or_assoc]

end ValueSet

end CronSchedule
