/-
White space, and texts with white space trimmed from their ends.
-/
import LogQuery.Text.CodePoints

namespace LogQuery.Text

/-- White space: the line and paragraph ends, tabs, the information
separators U+001C to U+001F, and the spaces of all widths. -/
def blanks : CodePoints := ⟨[
  (0x09, 0x0D), (0x1C, 0x20), (0x85, 0x85), (0xA0, 0xA0), (0x1680, 0x1680),
  (0x2000, 0x200A), (0x2028, 0x2029), (0x202F, 0x202F), (0x205F, 0x205F),
  (0x3000, 0x3000)]⟩

/-- White space characters, the line feed included. -/
def isBlank (c : Char) : Bool := blanks.contains c

/-- The characters without the white space at both ends. -/
def trimList (cs : List Char) : List Char :=
  ((cs.dropWhile isBlank).reverse.dropWhile isBlank).reverse

/-- The text without the white space at both ends. -/
def trim (s : String) : String := String.ofList (trimList s.toList)

end LogQuery.Text
