/-
Going along a YAML text.

`k.At rest column` is a place as far as reading depends on it: what follows,
and the column. Characters that end no line move the column, and behind a
line feed it is zero.
-/
import LogQuery.Yaml.Cursor

namespace LogQuery.Yaml

/-- A character that the column counts. -/
def CountsColumn (c : Char) : Prop := isBreak c = false ∧ c ≠ '\uFEFF'

namespace Cursor

/-- What follows a place, and its column. -/
structure At (k : Cursor) (rest : List Char) (column : Nat) : Prop where
  rest : k.rest = rest
  column : k.column = column

theorem advance_add (m n : Nat) (k : Cursor) :
    k.advance (m + n) = (k.advance m).advance n := by
  induction m generalizing k with
  | zero => rw [Nat.zero_add]; rfl
  | succ m ih =>
    rw [Nat.succ_add, advance, advance]
    cases hrest : k.rest with
    | cons c cs => exact ih _
    | nil =>
      -- at the end of the text there is no way to go
      clear ih
      induction n with
      | zero => rfl
      | succ n ih =>
        dsimp only
        rw [advance, hrest]

theorem rest_advance (n : Nat) (k : Cursor) :
    (k.advance n).rest = k.rest.drop n := by
  induction n generalizing k with
  | zero => rfl
  | succ n ih =>
    rw [advance]
    cases hrest : k.rest with
    | nil => rw [List.drop_nil]; exact hrest
    | cons c cs => exact ih _

/-- Along characters that the column counts. -/
theorem At.along {k : Cursor} {part rest : List Char} {column : Nat}
    (h : k.At (part ++ rest) column) (hpart : ∀ c ∈ part, CountsColumn c) :
    (k.advance part.length).At rest (column + part.length) := by
  induction part generalizing k column with
  | nil => exact h
  | cons c part ih =>
    obtain ⟨hbreak, hmark⟩ := hpart c List.mem_cons_self
    have hmore := fun d hd => hpart d (List.mem_cons_of_mem c hd)
    rw [List.length_cons, advance, h.rest]
    simp only [List.cons_append, hbreak, hmark, Bool.false_and,
      Bool.false_eq_true, ite_false, h.column]
    rw [Nat.add_comm part.length 1, ← Nat.add_assoc]
    exact ih ⟨rfl, rfl⟩ hmore

/-- Behind a line feed. -/
theorem At.lineFeed {k : Cursor} {rest : List Char} {column : Nat}
    (h : k.At ('\n' :: rest) column) : (k.advance 1).At rest 0 := by
  rw [advance, h.rest]
  exact ⟨rfl, rfl⟩

/-- The place where `rest` follows. -/
theorem upTo_eq_advance {k : Cursor} {part rest : List Char}
    (h : k.rest = part ++ rest) : k.upTo rest = k.advance part.length := by
  rw [upTo, h, List.length_append, Nat.add_sub_cancel]

theorem upTo_rest (k : Cursor) : k.upTo k.rest = k := by
  rw [upTo, Nat.sub_self]
  rfl

theorem rest_upTo {k : Cursor} {part rest : List Char}
    (h : k.rest = part ++ rest) : (k.upTo rest).rest = rest := by
  rw [upTo_eq_advance h, rest_advance, h, List.drop_left]

end Cursor

end LogQuery.Yaml
