/-
Writing a list of texts as YAML.

Each item is written in the simplest style that reads back as the same text:
plain if nothing in it means anything, in single quotes if it holds printable
characters only, and in double quotes with escapes otherwise. Lines longer
than `lineWidth` are broken at single spaces.
-/
import LogQuery.Yaml.Implicit
import LogQuery.Yaml.Cursor

namespace LogQuery.Yaml.Writer

open Text

/-- Columns after which a line is broken. -/
def lineWidth : Nat := 80

/-- Columns by which continued lines are indented. -/
def indentWidth : Nat := 2

/-- A new line, indented as a continued one. -/
def continued : List Char := '\n' :: List.replicate indentWidth ' '

-- =================================================================== style

/-- How a text is written. -/
inductive Style where
  | plain
  | singleQuoted
  | doubleQuoted
deriving DecidableEq, Repr

/-- Characters that can stand in a text without escapes. -/
def isVisible (c : Char) : Bool :=
  c = '\n' || (' ' ≤ c && c ≤ '~')

/-- A character that would start something else than a plain text. -/
def startsMarkup (c : Char) (cs : List Char) : Bool :=
  "#,[]\x7b\x7d&*!|>'\"%@\u0060".toList.contains c
    || ((c = '?' || c = ':' || c = '-') && separated cs)
    || (c :: cs).take 3 = ['-', '-', '-'] || (c :: cs).take 3 = ['.', '.', '.']

/-- A comment or a mapping value inside the text. `before` is the character
before it. -/
def holdsMarkup (before : Char) : List Char → Bool
  | [] => false
  | c :: cs =>
    (c = ':' && separated cs) || (c = '#' && separated [before])
      || holdsMarkup c cs

/-- A pair of neighbours, `first` and then `second`. -/
def holdsPair (first second : Char) (cs : List Char) : Bool :=
  (cs.zip (cs.drop 1)).contains (first, second)

/-- White space that a plain text can not start or end with. -/
def isEdge (c : Char) : Bool := c = ' ' || c = '\n'

/-- The style of a text. -/
def style (cs : List Char) : Style :=
  if !cs.all isVisible || holdsPair ' ' '\n' cs || holdsPair '\n' ' ' cs then
    .doubleQuoted
  else
    match cs with
    | [] => .singleQuoted
    | c :: rest =>
      if Kind.ofChars cs ≠ .text || startsMarkup c rest
          || holdsMarkup c rest || cs.contains '\n'
          || isEdge c || cs.getLast?.any isEdge then
        .singleQuoted
      else .plain

-- ========================================================= plain and single

/-- The end of a run of the same kind of character: spaces, line ends, or
neither. -/
def sameRun (c d : Char) : Bool :=
  (c = ' ') = (d = ' ') && (c = '\n') = (d = '\n')

/-- A text cut into runs of spaces, of line ends and of other characters. -/
def runs (cs : List Char) : List (List Char) := cs.splitBy sameRun

/-- Writes runs from a column on. `isInner` tells whether a run may be
replaced by a new line. Single quotes are doubled if `doubled` is set. -/
def writeRuns (doubled : Bool) (isFirst : Bool) :
    Nat → List (List Char) → List Char
  | _, [] => []
  | column, run :: more =>
    match run with
    | [' '] =>
      if lineWidth < column && !isFirst && !more.isEmpty then
        continued ++ writeRuns doubled false indentWidth more
      else ' ' :: writeRuns doubled false (column + 1) more
    | '\n' :: _ =>
      '\n' :: run ++ List.replicate indentWidth ' '
        ++ writeRuns doubled false indentWidth more
    | _ =>
      let text :=
        if doubled then
          run.flatMap fun c => if c = '\'' then ['\'', '\''] else [c]
        else run
      text ++ writeRuns doubled false (column + text.length) more

-- =========================================================== double quotes

/-- How a character is written between double quotes, if not as itself. -/
def escape? (c : Char) : Option (List Char) :=
  let named := [('\u0000', '0'), ('\u0007', 'a'), ('\u0008', 'b'),
    ('\t', 't'), ('\n', 'n'), ('\u000B', 'v'), ('\u000C', 'f'), ('\r', 'r'),
    ('\u001B', 'e'), ('"', '"'), ('\\', '\\'), ('\u0085', 'N'),
    ('\u00A0', '_'), ('\u2028', 'L'), ('\u2029', 'P')]
  let code (mark : Char) (width : Nat) : List Char :=
    '\\' :: mark :: (hexPadded width c.toNat).toList.map (·.toUpper)
  match named.lookup c with
  | some e => some ['\\', e]
  | none =>
    if ' ' ≤ c && c ≤ '~' then none
    else if c.toNat < 0x100 then some (code 'x' 2)
    else if c.toNat < 0x10000 then some (code 'u' 4)
    else some (code 'U' 8)

/-- Breaks a line before `c`: a backslash ends it, and another one keeps a
space that starts the next. -/
def breakBefore (c : Char) : List Char :=
  '\\' :: continued ++ if c = ' ' then ['\\'] else []

/-- The column of `c` after such a break. -/
def columnAfterBreak (c : Char) : Nat :=
  indentWidth + if c = ' ' then 1 else 0

/-- Writes a text between double quotes. `held` are characters that have not
been written yet, and `column` is where they will start. A long line is
broken before a space or after an escape, but not next to the quotes. -/
def writeEscaped (isFirst : Bool) (column : Nat) (held : List Char) :
    List Char → List Char
  | [] => held
  | c :: cs =>
    match escape? c with
    | some e =>
      let column := column + held.length + e.length
      let rest :=
        match cs with
        | [] => []
        | d :: _ =>
          if !isFirst && lineWidth + 1 < column then
            breakBefore d ++ writeEscaped false (columnAfterBreak d) [] cs
          else writeEscaped false column [] cs
      held ++ e ++ rest
    | none =>
      if !isFirst && !cs.isEmpty && (c = ' ' || held.isEmpty)
          && lineWidth < column + held.length then
        held ++ breakBefore c
          ++ writeEscaped false (columnAfterBreak c) [c] cs
      else writeEscaped false column (held ++ [c]) cs

-- =================================================================== lists

/-- An item of a list, behind its dash. -/
def item (s : String) : List Char :=
  let cs := s.toList
  match style cs with
  | .plain => writeRuns false true 2 (runs cs)
  | .singleQuoted => '\'' :: writeRuns true true 3 (runs cs) ++ ['\'']
  | .doubleQuoted => '"' :: writeEscaped true 3 [] cs ++ ['"']

/-- A mapping whose one key has a list of texts. -/
def keyedList (key : String) (items : List String) : String :=
  if items.isEmpty then key ++ ": []\n"
  else
    String.ofList (key.toList ++ ':' :: '\n'
      :: items.flatMap fun s => '-' :: ' ' :: item s ++ ['\n'])

end LogQuery.Yaml.Writer
