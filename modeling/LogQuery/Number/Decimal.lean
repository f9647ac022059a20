/-
Numbers written in decimal.

A numeral is digits with a point and an exponent, each of them optional. On
its own a number may also have a sign, be infinite or no number, have
underscores between its digits, take its digits from any script, and stand
between white space.
-/
import LogQuery.Number.Binary64
import LogQuery.Text.Blank
import LogQuery.Text.Hex
import LogQuery.Text.Numeral

namespace LogQuery

open Text

-- ================================================================ numerals

/-- The text without a sign in front. -/
def unsigned (cs : List Char) : List Char :=
  match cs with
  | '+' :: rest => rest
  | '-' :: rest => rest
  | _ => cs

/-- The exponent that is all of a text, or zero if there is no text. -/
def exponent? : List Char → Option Int
  | [] => some 0
  | e :: cs => do
    let power := unsigned cs
    if (e ≠ 'e' && e ≠ 'E') || power.isEmpty then failure
    let p ← digitsValue? 10 power
    some (if cs.head? = some '-' then -(p : Int) else p)

/-- A numeral as a whole number and a power of ten. -/
def decimal? (cs : List Char) : Option (Nat × Int) := do
  let whole := cs.takeWhile (·.isDigit)
  let (fraction, rest) := match cs.drop whole.length with
    | '.' :: more => more.span (·.isDigit)
    | rest => ([], rest)
  if (whole ++ fraction).isEmpty then failure
  let n ← digitsValue? 10 (whole ++ fraction)
  let e ← exponent? rest
  some (n, e - fraction.length)

-- ================================================================= numbers

/-- White space around numbers; the information separators are none. -/
def isMargin (c : Char) : Bool :=
  isBlank c && !(0x1C ≤ c.toNat && c.toNat ≤ 0x1F)

/-- The text without the white space around it. -/
def withoutMargins (cs : List Char) : List Char :=
  ((cs.dropWhile isMargin).reverse.dropWhile isMargin).reverse

/-- The decimal digit of the Latin script that has the same value. -/
def latinDigit (c : Char) : Char :=
  ((decimalValue? c).map Nat.digitChar).getD c

/-- The text without its underscores, which have to stand between digits;
`inside` says whether a digit comes before. -/
def withoutUnderscores? (inside : Bool) : List Char → Option (List Char)
  | [] => some []
  | c :: cs =>
    if c = '_' then
      if inside && cs.head?.any (·.isDigit) then withoutUnderscores? false cs
      else none
    else (c :: ·) <$> withoutUnderscores? c.isDigit cs

/-- The number that a text spells. -/
def Binary64.ofText? (s : String) : Option Binary64 := do
  let cs ←
    withoutUnderscores? false ((withoutMargins s.toList).map latinDigit)
  let negative := cs.head? = some '-'
  let body := unsigned cs
  let word := String.ofList (body.map Char.toLower)
  if word = "inf" || word = "infinity" then some (infinite negative)
  else if word = "nan" then some notANumber
  else
    let (n, e) ← decimal? body
    some (ofDecimal negative n e)

end LogQuery
