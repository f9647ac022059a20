/-
The operators of the query language.

Operators made of symbols are matched longest first, and that is the order
in which they are listed. The compound ones are also what the scanner keeps
together, so that `a>=b` has one operator and not two.
-/

namespace LogQuery.Operator

/-- Operators written with symbols. -/
def symbols : List String :=
  ["<=>", ":=", "!=", "==", ">=", "<=", "=>", "=", "<", ">", "|", "!"]

/-- Operators written as words, in any case. -/
def words : List String := ["and", "or", "not"]

/-- Operators that join clauses and do not compare a field with a value. -/
def connectives : List String := ["|", "!", "=>", "and", "or", "not"]

/-- Operators of more than one symbol. -/
def compound : List String := symbols.filter fun op => 1 < op.length

end LogQuery.Operator
