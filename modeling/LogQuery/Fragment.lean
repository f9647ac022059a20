/-
Fragments: the pieces that a query is cut into before anything is known
about its meaning.

A fragment knows its kind, where it stands in the query and its own text.
Offsets count characters; the end is exclusive. Scanning gives offsets from
zero on. Fragments that were made by hand may stand anywhere, also before
the start of a text, so offsets are integers.
-/

namespace LogQuery

/-- A stretch of the query, from `start` up to but not including `stop`. -/
structure Span where
  start : Int
  stop : Int
deriving DecidableEq, Repr

/-- The lexical kinds of fragments. -/
inductive Fragment.Kind where
  /-- Field names, function names and bare values: `math:abs`, `@rawstring`. -/
  | word
  /-- Brackets, separators and operators. -/
  | punct
  /-- A string in double quotes, the quotes included. -/
  | quotedString
  /-- A regular expression between slashes, with its flags. -/
  | regexLiteral
  /-- Digits with at most one decimal point. -/
  | number
  /-- White space without line feeds. -/
  | whitespace
  /-- A comment to the end of the line or between `/*` and `*/`. -/
  | comment
  /-- One line feed. -/
  | newline
deriving DecidableEq, Repr

namespace Fragment.Kind

/-- The name under which a kind is listed. -/
def name : Kind → String
  | word => "word"
  | punct => "punct"
  | quotedString => "quoted_string"
  | regexLiteral => "regex_literal"
  | number => "number"
  | whitespace => "whitespace"
  | comment => "comment"
  | newline => "newline"

/-- Layout separates fragments and means nothing else. -/
def isLayout : Kind → Bool
  | whitespace | newline => true
  | _ => false

end Fragment.Kind

/-- A piece of the query: its kind, its place and its text. -/
structure Fragment where
  kind : Fragment.Kind
  span : Span
  text : String
deriving DecidableEq, Repr

namespace Fragment

/-- The fragment is the punctuation mark `mark`. -/
def isPunct (f : Fragment) (mark : String) : Bool :=
  f.kind = .punct && f.text = mark

/-- The text of a fragment that is a word. -/
def word? (f : Fragment) : Option String :=
  if f.kind = .word then some f.text else none

end Fragment

end LogQuery
