/-
What a query may mention: function names and operators.

A vocabulary keeps its operators longest first, operators of equal length in
the order in which they were given. The first operator that a text starts
with is then the longest one.
-/
import LogQuery.NameSet
import LogQuery.Operator
import LogQuery.Text.Lowercase

namespace LogQuery

open Text

-- =========================================================== longest first

/-- Puts an operator in front of those that are not longer. -/
def insertLonger (op : String) : List String → List String
  | [] => [op]
  | p :: ps =>
    if op.length < p.length then p :: insertLonger op ps else op :: p :: ps

/-- The operators longest first, otherwise in their order. -/
def longestFirst (ops : List String) : List String := ops.foldr insertLonger []

theorem mem_insertLonger {a op : String} {ps : List String} :
    a ∈ insertLonger op ps ↔ a = op ∨ a ∈ ps := by
  induction ps with
  | nil => simp [insertLonger]
  | cons p ps ih =>
    unfold insertLonger
    split
    · simp only [List.mem_cons, ih]
      constructor
      · rintro (h | h | h) <;> simp [h]
      · rintro (h | h | h) <;> simp [h]
    · simp

theorem pairwise_insertLonger {op : String} {ps : List String}
    (h : ps.Pairwise fun a b => b.length ≤ a.length) :
    (insertLonger op ps).Pairwise fun a b => b.length ≤ a.length := by
  induction ps with
  | nil => simp [insertLonger]
  | cons p ps ih =>
    have hp := List.pairwise_cons.1 h
    unfold insertLonger
    split
    · next hlt =>
      refine List.pairwise_cons.2 ⟨fun b hb => ?_, ih hp.2⟩
      rcases mem_insertLonger.1 hb with rfl | hb
      · omega
      · exact hp.1 b hb
    · refine List.pairwise_cons.2 ⟨fun b hb => ?_, h⟩
      rcases List.mem_cons.1 hb with rfl | hb
      · omega
      · have := hp.1 b hb
        omega

theorem pairwise_longestFirst (ops : List String) :
    (longestFirst ops).Pairwise fun a b => b.length ≤ a.length := by
  induction ops with
  | nil => exact .nil
  | cons op ops ih => exact pairwise_insertLonger ih

@[simp] theorem mem_longestFirst {a : String} {ops : List String} :
    a ∈ longestFirst ops ↔ a ∈ ops := by
  induction ops with
  | nil => simp [longestFirst]
  | cons op ops ih =>
    change a ∈ insertLonger op (longestFirst ops) ↔ _
    rw [mem_insertLonger, ih, List.mem_cons]

-- ============================================================ vocabularies

/-- Function names and operators. Word operators are compared in lower case;
connectives are the operators that compare nothing. -/
structure Vocabulary where
  functions : NameSet
  operators : List String
  wordOperators : NameSet
  connectives : NameSet
  descending : operators.Pairwise fun a b => b.length ≤ a.length
deriving DecidableEq

namespace Vocabulary

/-- A vocabulary with the given operators in any order. -/
def ofParts (functions : NameSet) (operators : List String)
    (wordOperators connectives : NameSet) : Vocabulary where
  functions := functions
  operators := longestFirst operators
  wordOperators := wordOperators
  connectives := connectives
  descending := pairwise_longestFirst operators

/-- The operators of the language with the given function names. -/
def ofFunctions (functions : NameSet) : Vocabulary :=
  ofParts functions Operator.symbols (.ofList Operator.words)
    (.ofList Operator.connectives)

/-- The operators of the language and no function names. -/
def empty : Vocabulary := ofFunctions .empty

/-- The same operators with other function names. -/
def withFunctions (v : Vocabulary) (functions : NameSet) : Vocabulary :=
  { v with functions := functions }

/-- Whether a name is a function name; case matters. -/
def isFunction (v : Vocabulary) (name : String) : Bool :=
  v.functions.contains name

/-- The longest operator that the characters start with. -/
def leadingOperator? (v : Vocabulary) (cs : List Char) : Option String :=
  v.operators.find? (·.toList.isPrefixOf cs)

/-- What is left of a text from an offset on. A negative offset counts from
the end and stops at the start; past the end there is nothing, not even the
empty text. -/
def charsFrom? (text : String) (offset : Int) : Option (List Char) :=
  let cs := text.toList
  if offset < 0 then some (cs.drop (offset + cs.length).toNat)
  else if offset ≤ cs.length then some (cs.drop offset.toNat)
  else none

/-- The longest operator at an offset of the text. -/
def operatorAt? (v : Vocabulary) (text : String) (offset : Int) :
    Option String :=
  (charsFrom? text offset).bind v.leadingOperator?

/-- Whether the whole text is an operator. -/
def isOperator (v : Vocabulary) (text : String) : Bool :=
  v.wordOperators.contains (lower text)
    || (v.leadingOperator? text.toList).any (·.length = text.length)

/-- Whether the whole text is an operator that compares a field with a
value. -/
def isComparison (v : Vocabulary) (text : String) : Bool :=
  v.isOperator text && !v.connectives.contains (lower text)

end Vocabulary

end LogQuery
