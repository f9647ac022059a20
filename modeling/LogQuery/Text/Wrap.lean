/-
Lines that are wrapped to fit into a number of cells.

A line is broken in front of a word that no longer fits into it. A word that
fits into no line goes on in the next one or is cut off.
-/
import LogQuery.Text.Blank
import LogQuery.Text.CellWidth

namespace LogQuery.Text

/-- What becomes of a word that fits into no line. -/
inductive Overflow where
  /-- It goes on in the next line. -/
  | fold
  /-- It is cut off, and dots show that. -/
  | ellipsis
deriving DecidableEq, Repr

-- =================================================================== words

/-- The words of a line, each with the white space behind it, and the first
one with that before it as well. White space alone is no word. -/
def lineWords (cs : List Char) : List (List Char) :=
  let start := cs.takeWhile isBlank
  let isInside (c d : Char) : Bool := !isBlank c || isBlank d
  match (cs.drop start.length).splitBy isInside with
  | [] => []
  | word :: words => (start ++ word) :: words

/-- The text without the white space behind it. -/
def trimEnd (cs : List Char) : List Char :=
  (cs.reverse.dropWhile isBlank).reverse

/-- Cuts a word into pieces of `width` cells; `fuel` bounds their number. -/
def pieces (width : Nat) : Nat → List Char → List (List Char)
  | 0, cs => [cs]
  | fuel + 1, cs =>
    let (piece, rest) := cutCells width cs
    if rest.isEmpty then [piece] else piece :: pieces width fuel rest

-- =================================================================== lines

/-- Lines in the making: those that are finished, the last one first, and the
open one with its number of cells. -/
structure Wrapping where
  finished : List (List Char)
  line : List Char
  cells : Nat

namespace Wrapping

/-- Breaks the open line, if there is anything in it. -/
def broken (w : Wrapping) : List (List Char) :=
  if w.line.isEmpty then w.finished else w.line :: w.finished

/-- Goes on with a word. -/
def add (o : Overflow) (width : Nat) (w : Wrapping) (word : List Char) :
    Wrapping :=
  let needed := cellLength (trimEnd word)
  if w.cells + needed ≤ width then
    { w with line := w.line ++ word, cells := w.cells + cellLength word }
  else if width < needed && o = .fold then
    let parts := (pieces width word.length word).reverse
    let last := parts.headD []
    ⟨parts.drop 1 ++ w.broken, last, cellLength last⟩
  else ⟨w.broken, word, cellLength word⟩

end Wrapping

/-- The line without white space that makes it longer than `width`
characters. -/
def withoutExcess (width : Nat) (cs : List Char) : List Char :=
  let blank := cs.length - (trimEnd cs).length
  cs.take (cs.length - min blank (cs.length - width))

/-- The front of a line, filled up to `n` cells. -/
def fitted (n : Nat) (cs : List Char) : List Char :=
  let front := (cutCells n cs).1
  front ++ List.replicate (n - cellLength front) ' '

/-- The line, cut off behind `width` cells. -/
def cutOff (o : Overflow) (width : Nat) (cs : List Char) : List Char :=
  if cellLength cs ≤ width then cs
  else
    match o with
    | .fold => fitted width cs
    | .ellipsis => fitted (width - 1) cs ++ ['…']

/-- The lines into which a line is wrapped. -/
def wrap (o : Overflow) (width : Nat) (cs : List Char) : List (List Char) :=
  let w := (lineWords cs).foldl (Wrapping.add o width) ⟨[], [], 0⟩
  let lines := if w.broken.isEmpty then [cs] else w.broken.reverse
  lines.map fun line => cutOff o width (withoutExcess width line)

end LogQuery.Text
