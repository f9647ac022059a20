/-
Which operator a vocabulary finds.

A vocabulary keeps its operators longest first, so the first one that starts a
text is the longest one that does. Operators of one length that start the same
text are the same operator, which makes the order in which they were given
irrelevant: what is found depends on which operators there are.

At an offset the same is found as at the start of what follows it. A negative
offset counts from the end of the text; past the end nothing is found, not even
an empty operator.
-/
import LogQuery.Vocabulary
import Mathlib.Data.List.Infix

namespace LogQuery.Vocabulary

open Text

variable {v u : Vocabulary} {cs : List Char} {op text : String} {p : Nat}

/-- What is found is an operator that starts the text. -/
theorem mem_of_leadingOperator? (h : v.leadingOperator? cs = some op) :
    op ∈ v.operators ∧ op.toList <+: cs := by
  rw [leadingOperator?] at h
  have hstarts := List.find?_some h
  exact ⟨List.mem_of_find?_eq_some h, List.isPrefixOf_iff_prefix.1 hstarts⟩

/-- No operator that starts the text is longer than the one that is found. -/
theorem length_le_of_leadingOperator? (h : v.leadingOperator? cs = some op) :
    ∀ q ∈ v.operators, q.toList <+: cs → q.length ≤ op.length := by
  intro q hq hstarts
  obtain ⟨-, before, after, hsplit, hbefore⟩ :=
    List.find?_eq_some_iff_append.1 h
  have hdescending := v.descending
  rw [hsplit] at hq hdescending
  have hafter := List.pairwise_cons.1 (List.pairwise_append.1 hdescending).2.1
  rcases List.mem_append.1 hq with hq | hq
  · have hno := hbefore q hq
    rw [List.isPrefixOf_iff_prefix.2 hstarts] at hno
    cases hno
  · rcases List.mem_cons.1 hq with rfl | hq
    · exact Nat.le_refl _
    · exact hafter.1 q hq

/-- An operator is found if one starts the text. -/
theorem exists_leadingOperator? (hop : op ∈ v.operators)
    (hstarts : op.toList <+: cs) : ∃ q, v.leadingOperator? cs = some q := by
  rw [← Option.isSome_iff_exists, leadingOperator?, List.find?_isSome]
  exact ⟨op, hop, List.isPrefixOf_iff_prefix.2 hstarts⟩

/-- The operator that is found is the longest one that starts the text. -/
theorem leadingOperator?_eq_some_iff :
    v.leadingOperator? cs = some op
      ↔ op ∈ v.operators ∧ op.toList <+: cs
        ∧ ∀ q ∈ v.operators, q.toList <+: cs → q.length ≤ op.length := by
  constructor
  · intro h
    obtain ⟨hop, hstarts⟩ := mem_of_leadingOperator? h
    exact ⟨hop, hstarts, length_le_of_leadingOperator? h⟩
  · rintro ⟨hop, hstarts, hlongest⟩
    obtain ⟨q, hq⟩ := exists_leadingOperator? hop hstarts
    obtain ⟨hqop, hqstarts⟩ := mem_of_leadingOperator? hq
    -- of two operators that start the text one starts the other
    have hlength : q.toList.length = op.toList.length := by
      have hle := hlongest q hqop hqstarts
      have hge := length_le_of_leadingOperator? hq op hop hstarts
      rw [String.length_toList, String.length_toList]
      omega
    have hsame : q.toList = op.toList :=
      (List.prefix_of_prefix_length_le hqstarts hstarts
        (Nat.le_of_eq hlength)).eq_of_length hlength
    rw [hq, String.toList_inj.1 hsame]

/-- What is found depends only on which operators there are. -/
theorem leadingOperator?_congr
    (h : ∀ op, op ∈ v.operators ↔ op ∈ u.operators) (cs : List Char) :
    v.leadingOperator? cs = u.leadingOperator? cs := by
  apply Option.ext
  intro op
  rw [leadingOperator?_eq_some_iff, leadingOperator?_eq_some_iff]
  simp only [h]

/-- A text is an operator if it is one of them, or one of the words in some
case. -/
theorem isOperator_iff :
    v.isOperator text = true
      ↔ lower text ∈ v.wordOperators ∨ text ∈ v.operators := by
  rw [isOperator, Bool.or_eq_true, NameSet.contains_iff]
  apply or_congr Iff.rfl
  rw [Option.any_eq_true]
  constructor
  · rintro ⟨op, hop, hlength⟩
    obtain ⟨hmem, hstarts⟩ := mem_of_leadingOperator? hop
    rw [decide_eq_true_eq, ← String.length_toList,
      ← String.length_toList] at hlength
    rw [← String.toList_inj.1 (hstarts.eq_of_length hlength)]
    exact hmem
  · intro hmem
    obtain ⟨op, hop⟩ := exists_leadingOperator? hmem (List.prefix_refl _)
    have hge := length_le_of_leadingOperator? hop text hmem (List.prefix_refl _)
    have hle := (mem_of_leadingOperator? hop).2.length_le
    rw [String.length_toList, String.length_toList] at hle
    exact ⟨op, hop, decide_eq_true (Nat.le_antisymm hle hge)⟩

-- ============================================================ at an offset

/-- Where an offset points in a text of `n` characters. A negative one counts
from the end and stops at the start. -/
def pointAt (n : Nat) (offset : Int) : Int :=
  if offset < 0 then max 0 (offset + n) else offset

/-- The operator stands in the text, right at the point of an offset. -/
def StandsAt (op text : String) (offset : Int) : Prop :=
  ∃ before after, text.toList = before ++ op.toList ++ after
    ∧ (before.length : Int) = pointAt text.length offset

/-- An operator that stands in the text ends in it. -/
theorem StandsAt.le_length {offset : Int} (h : StandsAt op text offset) :
    pointAt text.length offset + op.length ≤ text.length := by
  obtain ⟨before, after, hsplit, hbefore⟩ := h
  have hlength := congrArg List.length hsplit
  rw [List.length_append, List.length_append, String.length_toList,
    String.length_toList] at hlength
  omega

/-- Looking from a point inside the text gives what follows the point. -/
theorem charsFrom?_eq_some_iff {offset : Int} :
    charsFrom? text offset = some cs
      ↔ ∃ before, text.toList = before ++ cs
        ∧ (before.length : Int) = pointAt text.length offset := by
  have hlength : text.toList.length = text.length := String.length_toList
  -- for both signs of the offset there is a point to cut at
  have hpoint : ∀ p : Nat, pointAt text.length offset = p →
      p ≤ text.toList.length →
      (some (text.toList.drop p) = some cs
        ↔ ∃ before, text.toList = before ++ cs
          ∧ (before.length : Int) = pointAt text.length offset) := by
    intro p hp hle
    rw [Option.some_inj, hp]
    constructor
    · rintro rfl
      refine ⟨text.toList.take p, (List.take_append_drop p _).symm, ?_⟩
      rw [List.length_take, Nat.min_eq_left hle]
    · rintro ⟨before, hsplit, hbefore⟩
      rw [hsplit, ← Int.natCast_inj.1 hbefore, List.drop_left]
  by_cases hneg : offset < 0
  · have hp : pointAt text.length offset
        = ((offset + text.toList.length).toNat : Nat) := by
      rw [pointAt, if_pos hneg]
      omega
    rw [charsFrom?, if_pos hneg]
    exact hpoint _ hp (by omega)
  by_cases hle : offset ≤ text.toList.length
  · have hp : pointAt text.length offset = (offset.toNat : Nat) := by
      rw [pointAt, if_neg hneg]
      omega
    rw [charsFrom?, if_neg hneg, if_pos hle]
    exact hpoint _ hp (by omega)
  · rw [charsFrom?, if_neg hneg, if_neg hle]
    constructor
    · intro h
      cases h
    · rintro ⟨before, hsplit, hbefore⟩
      rw [pointAt, if_neg hneg] at hbefore
      rw [hsplit, List.length_append] at hle
      omega

theorem standsAt_iff {offset : Int} :
    StandsAt op text offset
      ↔ ∃ cs, charsFrom? text offset = some cs ∧ op.toList <+: cs := by
  simp only [StandsAt, charsFrom?_eq_some_iff]
  constructor
  · rintro ⟨before, after, hsplit, hbefore⟩
    rw [List.append_assoc] at hsplit
    exact ⟨op.toList ++ after, ⟨before, hsplit, hbefore⟩, after, rfl⟩
  · rintro ⟨-, ⟨before, hsplit, hbefore⟩, after, rfl⟩
    rw [← List.append_assoc] at hsplit
    exact ⟨before, after, hsplit, hbefore⟩

/-- At an offset the longest operator is found that stands there. -/
theorem operatorAt?_eq_some_iff {offset : Int} :
    v.operatorAt? text offset = some op
      ↔ op ∈ v.operators ∧ StandsAt op text offset
        ∧ ∀ q ∈ v.operators, StandsAt q text offset → q.length ≤ op.length := by
  rw [operatorAt?]
  cases hchars : charsFrom? text offset with
  | none => simp [standsAt_iff, hchars]
  | some cs =>
    rw [Option.bind_some, leadingOperator?_eq_some_iff]
    simp only [standsAt_iff, hchars, Option.some_inj, exists_eq_left']

/-- No operator is found at an offset if none stands there. -/
theorem operatorAt?_eq_none_iff {offset : Int} :
    v.operatorAt? text offset = none
      ↔ ∀ op ∈ v.operators, ¬ StandsAt op text offset := by
  rw [operatorAt?]
  cases hchars : charsFrom? text offset with
  | none => simp [standsAt_iff, hchars]
  | some cs =>
    rw [Option.bind_some, leadingOperator?, List.find?_eq_none]
    simp only [standsAt_iff, hchars, Option.some_inj, exists_eq_left',
      List.isPrefixOf_iff_prefix]

/-- At an offset inside the text an operator is looked for in what follows. -/
theorem operatorAt?_of_le (v : Vocabulary) (h : p ≤ text.toList.length) :
    v.operatorAt? text p = v.leadingOperator? (text.toList.drop p) := by
  have hchars : charsFrom? text p = some (text.toList.drop p) := by
    unfold charsFrom?
    rw [if_neg (by omega), if_pos (by exact_mod_cast h), Int.toNat_natCast]
  rw [operatorAt?, hchars, Option.bind_some]

end LogQuery.Vocabulary
