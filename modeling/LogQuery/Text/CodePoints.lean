/-
Sets of characters given by their code points.

The character classes of a query are properties of Unicode 14, and each is
written down as the list of its code point ranges. The set below is the
one way in which such a list is read.
-/

namespace LogQuery.Text

/-- A set of code points, as ascending ranges that include both ends. -/
structure CodePoints where
  ranges : List (Nat × Nat)

namespace CodePoints

/-- A character is in the set if some range holds its code point. -/
def contains (s : CodePoints) (c : Char) : Bool :=
  s.ranges.any fun r => r.1 ≤ c.toNat && c.toNat ≤ r.2

theorem contains_iff {s : CodePoints} {c : Char} :
    s.contains c = true
      ↔ ∃ r ∈ s.ranges, r.1 ≤ c.toNat ∧ c.toNat ≤ r.2 := by
  simp [contains]

end CodePoints

end LogQuery.Text
