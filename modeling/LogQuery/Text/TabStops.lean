/-
Tab stops: a tab becomes blanks up to the next multiple of eight cells.
-/
import LogQuery.Text.CellWidth

namespace LogQuery.Text

/-- The distance between two tab stops. -/
def tabSize : Nat := 8

/-- A part of a line that starts at a tab stop, with blanks for the tab behind
it: one for the tab itself and as many more as are missing. -/
def toTabStop (part : List Char) : List Char :=
  let start := part ++ [' ']
  let missing := (tabSize - cellLength start % tabSize) % tabSize
  start ++ List.replicate missing ' '

/-- The parts of a line between its tabs, put together. -/
def joinAtTabs : List (List Char) → List Char
  | [] => []
  | [part] => part
  | part :: parts => toTabStop part ++ joinAtTabs parts

/-- The characters with blanks for tabs. -/
def expandTabs (cs : List Char) : List Char :=
  ['\n'].intercalate
    ((cs.splitOn '\n').map fun line => joinAtTabs (line.splitOn '\t'))

end LogQuery.Text
