/-
Tables for a terminal: columns with heads, in frames of box characters.

Every column is as wide as its widest cell, with a blank on each side. If the
table is wider than the terminal, the widest columns give way, and what they
hold is wrapped. The frame of the heads is heavy, that of the rows light.
-/
import LogQuery.Text.Wrap

namespace LogQuery

open Text

/-- The heads of the columns, and rows with a cell for each of them. -/
structure Table where
  heads : List String
  rows : List (List String)
deriving DecidableEq, Repr

namespace Table

-- ================================================================== widths

/-- Widths of columns, widened by the cells of a row. -/
def widen (ws : List Nat) (row : List String) : List Nat :=
  ws.zipWith (fun w cell => max w (cellLength cell.toList)) row

/-- The width that each column needs. -/
def widths (t : Table) : List Nat :=
  t.rows.foldl widen (t.heads.map fun head => cellLength head.toList)

/-- The width of a table, with the frame and the blanks around the cells. -/
def fullWidth (ws : List Nat) : Nat := ws.foldl (· + · + 3) 1

/-- The widths, none of them larger than a limit, which is as large as a
terminal of `width` cells allows. -/
def limited (width : Nat) (ws : List Nat) : List Nat :=
  let upTo (limit : Nat) : List Nat := ws.map (min limit)
  let limits := (List.range (ws.foldl max 0 + 1)).reverse
  upTo ((limits.find? fun limit => fullWidth (upTo limit) ≤ width).getD 0)

-- =================================================================== lines

/-- A line of the frame: dashes over all columns, and corners. -/
def frameLine (left dash between right : String) (widths : List Nat) :
    String :=
  let dashes := widths.map fun w => String.join (List.replicate (w + 2) dash)
  left ++ String.intercalate between dashes ++ right ++ "\n"

/-- A part of a cell filled up to its width, with a blank on each side. -/
def padded (width : Nat) (cell : String) : String :=
  let missing := width - cellLength cell.toList
  " " ++ cell ++ String.ofList (List.replicate missing ' ') ++ " "

/-- A line of cells with bars between them. -/
def cellLine (bar : String) (widths : List Nat) (row : List String) :
    String :=
  bar ++ String.intercalate bar (widths.zipWith padded row) ++ bar ++ "\n"

/-- The lines of a cell. -/
def cellLines (width : Nat) (cell : String) : List String :=
  (wrap .ellipsis width cell.toList).map String.ofList

/-- The lines of a row, as many as its longest cell has. -/
def rowLines (bar : String) (widths : List Nat) (row : List String) :
    String :=
  let cells := widths.zipWith cellLines row
  let height := (cells.map (·.length)).foldl max 0
  String.join ((List.range height).map fun n =>
    cellLine bar widths (cells.map fun lines => (lines[n]?).getD ""))

/-- The table on a terminal of `width` cells. -/
def render (width : Nat) (t : Table) : String :=
  let ws := limited width t.widths
  frameLine "┏" "━" "┳" "┓" ws ++ rowLines "┃" ws t.heads
    ++ frameLine "┡" "━" "╇" "┩" ws
    ++ String.join (t.rows.map (rowLines "│" ws))
    ++ frameLine "└" "─" "┴" "┘" ws

end Table

end LogQuery
