/-
Cutting a query into fragments.

The first character of the text, with a look at those behind it, decides
what kind of fragment starts there and how far it reaches; the rest of the
text is cut in the same way. Nothing before the rest is remembered, so
scanning can start again at any fragment. Malformed input is no error: an
open string ends with its line, an open comment with the text, and a slash
without a partner is punctuation.
-/
import LogQuery.Fragment
import LogQuery.Fragment.Extent

namespace LogQuery

open Text

/-- A fragment that has not been given a place yet. -/
structure Lexeme where
  kind : Fragment.Kind
  chars : List Char
deriving DecidableEq, Repr

namespace Lexeme

open Fragment

/-- What a slash starts: a comment, a regular expression, or only itself. -/
def slashOpening (cs : List Char) : Kind × Nat :=
  match cs with
  | '/' :: _ => (.comment, lineExtent cs)
  | '*' :: rest => (.comment, blockExtent rest + 1)
  | _ =>
    match regexExtent? cs with
    | some n => (.regexLiteral, n)
    | none => (.punct, 0)

/-- The kind of the fragment that starts the text `c :: cs`, and how many
characters of `cs` it takes besides `c`. -/
def opening (c : Char) (cs : List Char) : Kind × Nat :=
  if c = '\n' then (.newline, 0)
  else if isBlank c then (.whitespace, gapExtent cs)
  else if c = '/' then slashOpening cs
  else if c = '"' then (.quotedString, stringExtent cs)
  else if isDigit c then (.number, numberExtent cs)
  else if startsWord c cs then (.word, wordExtent cs)
  else (.punct, punctExtent c cs)

/-- The text cut into lexemes. -/
def ofChars : List Char → List Lexeme
  | [] => []
  | c :: cs =>
    let first := opening c cs
    ⟨first.1, c :: cs.take first.2⟩ :: ofChars (cs.drop first.2)
termination_by cs => cs.length
decreasing_by
  simp only [List.length_drop, List.length_cons]
  omega

/-- The lexemes as fragments, one after the other from offset `start`. -/
def place (start : Nat) : List Lexeme → List Fragment
  | [] => []
  | l :: ls =>
    let stop := start + l.chars.length
    ⟨l.kind, ⟨(start : Int), (stop : Int)⟩, String.ofList l.chars⟩
      :: place stop ls

end Lexeme

/-- The fragments of a query, in order. -/
def scan (query : String) : List Fragment :=
  Lexeme.place 0 (Lexeme.ofChars query.toList)

end LogQuery
