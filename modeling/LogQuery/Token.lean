/-
Tokens: fragments with a meaning.
-/
import LogQuery.Stack

namespace LogQuery

/-- What a fragment means in its query. -/
inductive Category where
  /-- The name of a called function. -/
  | function
  /-- An operator, of symbols or a word. -/
  | operator
  /-- A field that a filter compares. -/
  | filterKey
  /-- The name of an argument of a call. -/
  | argKey
  /-- What a key is compared with. -/
  | value
  /-- A regular expression. -/
  | regex
  /-- A comment. -/
  | comment
  /-- Everything else that is no layout. -/
  | plain
deriving DecidableEq, Repr

namespace Category

/-- The name under which a category is listed and styled. -/
def name : Category → String
  | function => "function"
  | operator => "operator"
  | filterKey => "filter_key"
  | argKey => "arg_key"
  | value => "value"
  | regex => "regex"
  | comment => "comment"
  | plain => "plain"

end Category

/-- A fragment with its category, its number among all fragments of the
query, and the frame that was current when it was read. -/
structure Token where
  span : Span
  category : Category
  fragmentIndex : Nat
  text : String
  context : Context
  functionName? : Option String
deriving DecidableEq, Repr

end LogQuery
