/-
The kinds that plain scalars show.

A plain scalar without a tag gets its kind from its text: `on` is a truth
value, `0x1F` and `1:30` are numbers, `2020-01-01` is a date, and what looks
like none of them is text.
-/
import LogQuery.Number.Decimal
import LogQuery.Yaml.Kind
import LogQuery.Yaml.Timestamp

namespace LogQuery.Yaml.Kind

open Text

-- ================================================================ spellings

def nulls : List String := ["", "~", "null", "Null", "NULL"]

def trues : List String :=
  ["yes", "Yes", "YES", "true", "True", "TRUE", "on", "On", "ON"]

def falses : List String :=
  ["no", "No", "NO", "false", "False", "FALSE", "off", "Off", "OFF"]

def isDigitOr_ (c : Char) : Bool := c.isDigit || c = '_'

/-- One digit, then digits and underscores. -/
def isDigits (cs : List Char) : Bool :=
  cs.head?.any (·.isDigit) && cs.all isDigitOr_

/-- One or two digits below sixty. -/
def isSixtieth : List Char → Bool
  | [d] => d.isDigit
  | [c, d] => '0' ≤ c && c ≤ '5' && d.isDigit
  | _ => false

/-- The spellings of whole numbers, without their sign. -/
def isInt (cs : List Char) : Bool :=
  match cs with
  | ['0'] => true
  | '0' :: 'b' :: ds =>
    !ds.isEmpty && ds.all fun c => c = '0' || c = '1' || c = '_'
  | '0' :: 'x' :: ds =>
    !ds.isEmpty && ds.all fun c => (hexValue? c).isSome || c = '_'
  | '0' :: ds => ds.all fun c => ('0' ≤ c && c ≤ '7') || c = '_'
  | _ =>
    match cs.splitOn ':' with
    | first :: more => isDigits first && more.all isSixtieth
    | [] => false

/-- An exponent with its sign, or nothing. -/
def isExponent : List Char → Bool
  | [] => true
  | e :: sign :: ds =>
    (e = 'e' || e = 'E') && (sign = '+' || sign = '-')
      && !ds.isEmpty && ds.all (·.isDigit)
  | _ => false

/-- What may follow the point of a number. -/
def isFraction (cs : List Char) : Bool :=
  isExponent (cs.dropWhile isDigitOr_)

/-- The spellings of numbers with a point. -/
def isFloat (cs : List Char) : Bool :=
  let body := unsigned cs
  match cs with
  | '.' :: rest =>
    (rest.head?.any (·.isDigit) && isFraction rest)
      || ["inf", "Inf", "INF", "nan", "NaN", "NAN"].contains
        (String.ofList rest)
  | _ =>
    match body with
    | '.' :: rest => ["inf", "Inf", "INF"].contains (String.ofList rest)
    | _ =>
      let whole := body.takeWhile (· ≠ '.')
      match body.drop whole.length, whole.splitOn ':' with
      | '.' :: rest, [first] => isDigits first && isFraction rest
      | '.' :: rest, first :: more =>
        isDigits first && more.all isSixtieth && rest.all isDigitOr_
      | _, _ => false

/-- Marks that are no text when they stand alone. -/
def loneMarks : List String := ["!", "&", "*"]

/-- The kind that a text shows. -/
def ofChars (cs : List Char) : Kind :=
  let s := String.ofList cs
  if nulls.contains s then null
  else if trues.contains s || falses.contains s then bool
  else if isInt (unsigned cs) then int
  else if isFloat cs then float
  else if Timestamp.isShown cs then timestamp
  else if s = "<<" then merge
  else if s = "=" then default
  else if loneMarks.contains s then unknown
  else text

end LogQuery.Yaml.Kind
