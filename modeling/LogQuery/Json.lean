/-
JSON texts, one value a line.

Only ASCII characters are written: all others stand as `\uXXXX`, those beyond
the basic plane as a pair of surrogates.
-/
import LogQuery.Text.Hex

namespace LogQuery

open Text

/-- A JSON value, of the kinds that are written. -/
inductive Json where
  | number (n : Int)
  | text (s : String)
  | array (items : List Json)
  | object (fields : List (String × Json))

namespace Json

-- =================================================================== texts

/-- The 16-bit units of a character. -/
def units (c : Char) : List Nat :=
  let n := c.toNat
  if n < 0x10000 then [n]
  else
    let rest := n - 0x10000
    [0xD800 + rest / 0x400, 0xDC00 + rest % 0x400]

/-- A character inside a JSON text. -/
def escaped (c : Char) : List Char :=
  if c = '"' || c = '\\' then ['\\', c]
  else if c = '\n' then ['\\', 'n']
  else if c = '\r' then ['\\', 'r']
  else if c = '\t' then ['\\', 't']
  else if c = '\u0008' then ['\\', 'b']
  else if c = '\u000C' then ['\\', 'f']
  else if ' ' ≤ c ∧ c ≤ '~' then [c]
  else (units c).flatMap fun u => '\\' :: 'u' :: (hexPadded 4 u).toList

/-- A text in quotation marks. -/
def quotedText (s : String) : String :=
  String.ofList ('"' :: s.toList.flatMap escaped ++ ['"'])

-- ================================================================== values

/-- Members between brackets, each on its own line; `margin` stands before
the closing bracket, and two more blanks before the members. -/
def bracketed (margin opening closing : String) (members : List String) :
    String :=
  if members.isEmpty then opening ++ closing
  else
    let lines := members.map fun m => margin ++ "  " ++ m
    opening ++ "\n" ++ String.intercalate ",\n" lines ++ "\n" ++ margin
      ++ closing

mutual

/-- The text of a value whose line starts with `margin`. -/
def render (margin : String) : Json → String
  | number n => toString n
  | text s => quotedText s
  | array items =>
    bracketed margin "[" "]" (renderItems (margin ++ "  ") items)
  | object fields =>
    bracketed margin "\x7b" "\x7d" (renderFields (margin ++ "  ") fields)

/-- The texts of the items of an array. -/
def renderItems (margin : String) : List Json → List String
  | [] => []
  | v :: vs => render margin v :: renderItems margin vs

/-- The texts of the fields of an object. -/
def renderFields (margin : String) : List (String × Json) → List String
  | [] => []
  | (name, v) :: fs =>
    (quotedText name ++ ": " ++ render margin v) :: renderFields margin fs

end

end Json

end LogQuery
