/-
How far a fragment reaches.

Each function below is given the characters that follow the first one of a
fragment and counts how many of them still belong to it. Counts rather than
split texts: whatever the count is, what it takes and what it leaves make up
the text again, so no fragment can lose or invent a character.

A backslash in a string or a regular expression takes the character after it
along, unless that is a line feed: no string and no regular expression runs
past the end of its line.
-/
import LogQuery.Operator
import LogQuery.Text.Blank
import LogQuery.Text.Letter
import LogQuery.Text.Numeral

namespace LogQuery.Fragment

open Text

-- ======================================================= character classes

/-- Characters that continue a word. -/
def isWordChar (c : Char) : Bool := isLetter c || isNumeral c || c = '_'

/-- White space within a line. -/
def isGap (c : Char) : Bool := isBlank c && c ≠ '\n'

/-- Letters that may follow a regular expression as flags. -/
def isFlag (c : Char) : Bool := ['d', 'F', 'g', 'i', 'm'].contains c

/-- A word starts with a letter or an underscore, or with `@` or `#` right
before a word character. -/
def startsWord (c : Char) (cs : List Char) : Bool :=
  isLetter c || c = '_' || ((c = '@' || c = '#') && cs.head?.any isWordChar)

-- ================================================================= layout

/-- The rest of a run of white space. -/
def gapExtent (cs : List Char) : Nat := (cs.takeWhile isGap).length

-- =============================================================== comments

/-- The rest of the line. -/
def lineExtent (cs : List Char) : Nat := (cs.takeWhile (· ≠ '\n')).length

/-- Up to and including the next `*/`, or everything. -/
def blockExtent : List Char → Nat
  | [] => 0
  | '*' :: '/' :: _ => 2
  | _ :: cs => blockExtent cs + 1

-- ==================================================== regular expressions

/-- The flags after a closing slash. A run of flag letters that goes on as a
longer word is no run of flags. -/
def flagExtent (cs : List Char) : Nat :=
  let run := cs.takeWhile isFlag
  if (cs.drop run.length).head?.any isWordChar then 0 else run.length

/-- Up to the closing slash and its flags, if the line has a closing
slash. -/
def regexExtent? : List Char → Option Nat
  | [] => none
  | '\n' :: _ => none
  | '\\' :: c :: cs =>
    if c = '\n' then none else (regexExtent? cs).map (· + 2)
  | '/' :: cs => some (flagExtent cs + 1)
  | _ :: cs => (regexExtent? cs).map (· + 1)

-- ================================================================ strings

/-- Up to and including the closing quote, or to the end of the line. -/
def stringExtent : List Char → Nat
  | [] => 0
  | '\n' :: _ => 0
  | '\\' :: c :: cs => if c = '\n' then 1 else stringExtent cs + 2
  | '"' :: _ => 1
  | _ :: cs => stringExtent cs + 1

-- ====================================================== numbers and words

/-- A run of digits. -/
def digitExtent (cs : List Char) : Nat := (cs.takeWhile isDigit).length

/-- Digits, then a point and more digits if a digit follows the point. -/
def numberExtent (cs : List Char) : Nat :=
  let whole := digitExtent cs
  match cs.drop whole with
  | '.' :: rest =>
    match digitExtent rest with
    | 0 => whole
    | n + 1 => whole + 1 + (n + 1)
  | _ => whole

/-- Word characters, and colons and points that have a word character right
after them. -/
def wordExtent : List Char → Nat
  | [] => 0
  | c :: cs =>
    if isWordChar c then wordExtent cs + 1
    else if c = ':' || c = '.' then
      match cs with
      | [] => 0
      | d :: cs => if isWordChar d then wordExtent cs + 2 else 0
    else 0

-- ============================================================ punctuation

/-- The rest of a compound operator; any other mark stands alone. -/
def punctExtent (c : Char) (cs : List Char) : Nat :=
  match Operator.compound.find? (·.toList.isPrefixOf (c :: cs)) with
  | some op => op.length - 1
  | none => 0

end LogQuery.Fragment
