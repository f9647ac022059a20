/-
Finite sets of names.

A set is the strictly ascending list of its members, ordered by code point.
So there is one value per set: two sets with the same members are equal, and
listing a set lists it in order.
-/

namespace LogQuery

-- ===================================================== ascending insertion

/-- Adds a name to an ascending list, unless it is there. -/
def insertName (name : String) : List String → List String
  | [] => [name]
  | m :: ms =>
    if name < m then name :: m :: ms
    else if name = m then m :: ms
    else m :: insertName name ms

/-- The name is among them, and so are the others. -/
theorem mem_insertName {a name : String} {ms : List String} :
    a ∈ insertName name ms ↔ a = name ∨ a ∈ ms := by
  induction ms with
  | nil => simp [insertName]
  | cons m ms ih =>
    unfold insertName
    split
    · simp
    · split
      · next h => simp [h]
      · simp only [List.mem_cons, ih]
        constructor
        · rintro (h | h | h) <;> simp [h]
        · rintro (h | h | h) <;> simp [h]

/-- The names stay in ascending order. -/
theorem pairwise_insertName {name : String} {ms : List String}
    (h : ms.Pairwise (· < ·)) : (insertName name ms).Pairwise (· < ·) := by
  induction ms with
  | nil => simp [insertName]
  | cons m ms ih =>
    have hm := List.pairwise_cons.1 h
    unfold insertName
    split
    · next hlt =>
      refine List.pairwise_cons.2 ⟨fun b hb => ?_, h⟩
      rcases List.mem_cons.1 hb with rfl | hb
      · exact hlt
      · exact String.lt_trans hlt (hm.1 b hb)
    · split
      · exact h
      · next hlt hne =>
        refine List.pairwise_cons.2 ⟨fun b hb => ?_, ih hm.2⟩
        rcases mem_insertName.1 hb with rfl | hb
        · rcases Std.lt_trichotomy m b with h | h | h
          · exact h
          · exact absurd h.symm hne
          · exact absurd h hlt
        · exact hm.1 b hb

-- ==================================================================== sets

/-- A set of names, as the ascending list of its members. -/
structure NameSet where
  toList : List String
  ascending : toList.Pairwise (· < ·)
deriving DecidableEq

namespace NameSet

/-- The set without members. -/
def empty : NameSet := ⟨[], .nil⟩

/-- The set with one more member. -/
def insert (s : NameSet) (name : String) : NameSet :=
  ⟨insertName name s.toList, pairwise_insertName s.ascending⟩

/-- The set of the names in a list. -/
def ofList (names : List String) : NameSet :=
  names.foldr (fun n s => s.insert n) empty

/-- Whether a name is a member. -/
def contains (s : NameSet) (name : String) : Bool := s.toList.contains name

/-- The members of either set. -/
def union (s t : NameSet) : NameSet :=
  s.toList.foldr (fun n u => u.insert n) t

/-- How many members there are. -/
def size (s : NameSet) : Nat := s.toList.length

instance : Membership String NameSet := ⟨fun s name => name ∈ s.toList⟩

theorem mem_def {s : NameSet} {name : String} : name ∈ s ↔ name ∈ s.toList :=
  Iff.rfl

@[simp] theorem contains_iff {s : NameSet} {name : String} :
    s.contains name = true ↔ name ∈ s := by
  simp [contains, mem_def]

@[simp] theorem mem_insert {s : NameSet} {a name : String} :
    a ∈ s.insert name ↔ a = name ∨ a ∈ s :=
  mem_insertName

@[simp] theorem not_mem_empty {name : String} : ¬ name ∈ empty := by
  simp [mem_def, empty]

@[simp] theorem mem_ofList {a : String} {names : List String} :
    a ∈ ofList names ↔ a ∈ names := by
  induction names with
  | nil => simp [ofList]
  | cons n names ih =>
    rw [show ofList (n :: names) = (ofList names).insert n from rfl]
    simp [ih]

@[simp] theorem mem_union {a : String} {s t : NameSet} :
    a ∈ s.union t ↔ a ∈ s ∨ a ∈ t := by
  obtain ⟨names, h⟩ := s
  simp only [union, mem_def]
  clear h
  induction names with
  | nil => simp
  | cons n names ih =>
    simp only [List.foldr_cons, List.mem_cons]
    exact (mem_insert (a := a)).trans (by rw [mem_def, ih, or_assoc])

end NameSet

end LogQuery
