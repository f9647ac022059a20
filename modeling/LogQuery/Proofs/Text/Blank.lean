/-
White space characters, and trimmed texts.

There are few white space characters, so what is to hold of all of them can be
tried on one after the other.

A text is trimmed if no white space stands at its ends. Trimming gives such a
text, and leaves it as it is.
-/
import Mathlib.Data.List.DropRight
import LogQuery.Text.Blank

namespace LogQuery.Text

-- ============================================================== characters

/-- The characters of the set, range by range. -/
def CodePoints.chars (s : CodePoints) : List Char :=
  s.ranges.flatMap fun r => (List.range' r.1 (r.2 + 1 - r.1)).map Char.ofNat

theorem CodePoints.mem_chars {s : CodePoints} {c : Char}
    (h : s.contains c = true) : c ∈ s.chars := by
  obtain ⟨r, hr, hfirst, hlast⟩ := contains_iff.1 h
  refine List.mem_flatMap.2 ⟨r, hr, List.mem_map.2 ⟨c.toNat, ?_, ?_⟩⟩
  · rw [List.mem_range'_1]
    omega
  · exact Char.ofNat_toNat c

/-- What holds of every white space character. -/
theorem forall_isBlank {P : Char → Prop} (h : ∀ c ∈ blanks.chars, P c)
    {c : Char} (hc : isBlank c = true) : P c :=
  h c (CodePoints.mem_chars hc)

-- ================================================================== trimming

/-- Dropping as many elements as a run at the start takes. -/
theorem drop_length_takeWhile {α : Type} (p : α → Bool) (xs : List α) :
    xs.drop (xs.takeWhile p).length = xs.dropWhile p := by
  conv_lhs => arg 2; rw [← xs.takeWhile_append_dropWhile (p := p)]
  exact List.drop_left

/-- No white space stands at either end. -/
structure Trimmed (cs : List Char) : Prop where
  head : ∀ c ∈ cs.head?, isBlank c = false
  last : ∀ c ∈ cs.getLast?, isBlank c = false

/-- Trimming drops white space from the left and then from the right. -/
theorem trimList_eq (cs : List Char) :
    trimList cs = (cs.dropWhile isBlank).rdropWhile isBlank := rfl

/-- Trimming only leaves characters out. -/
theorem trimList_sublist (cs : List Char) : (trimList cs).Sublist cs :=
  ((List.rdropWhile_prefix _ _).sublist).trans
    (List.dropWhile_suffix _).sublist

theorem trimmed_trimList (cs : List Char) : Trimmed (trimList cs) := by
  rw [trimList_eq]
  constructor
  · intro c hc
    obtain ⟨rest, hrest⟩ :=
      List.rdropWhile_prefix isBlank (cs.dropWhile isBlank)
    have hhead : (cs.dropWhile isBlank).head? = some c := by
      rw [← hrest, List.head?_append, hc, Option.some_or]
    have hnot := List.head?_dropWhile_not isBlank cs
    rwa [hhead] at hnot
  · intro c hc
    obtain ⟨hne, rfl⟩ := List.mem_getLast?_eq_getLast hc
    exact Bool.eq_false_iff.2 (List.rdropWhile_last_not _ _ hne)

theorem trimList_of_trimmed {cs : List Char} (h : Trimmed cs) :
    trimList cs = cs := by
  have hleft : cs.dropWhile isBlank = cs := by
    cases cs with
    | nil => rfl
    | cons c cs =>
      have hc : ¬ isBlank c = true := by simpa using h.head c rfl
      exact List.dropWhile_cons_of_neg hc
  rw [trimList_eq, hleft, List.rdropWhile_eq_self_iff]
  intro hne
  rw [h.last _ (List.getLast?_eq_getLast_of_ne_nil hne)]
  exact Bool.false_ne_true

/-- A trimmed text is left as it is. -/
theorem trim_of_trimmed {s : String} (h : Trimmed s.toList) : trim s = s := by
  rw [trim, trimList_of_trimmed h, String.ofList_toList]

end LogQuery.Text
