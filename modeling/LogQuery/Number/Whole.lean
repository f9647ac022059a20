/-
Whole numbers written in some base.

Digits of any script count, white space may stand around them, and a sign and
the mark of the base in front. The base ten has a limit on how many digits
are read or written.
-/
import LogQuery.Number.Decimal
import LogQuery.Text.Quoted

namespace LogQuery.Whole

open Text

/-- The largest number of decimal digits that is read or written. -/
def digitLimit : Nat := 4300

/-- Why a text spells no number. -/
inductive Fault where
  | malformed
  | tooLong (digits : Nat)
deriving DecidableEq, Repr

/-- The report of a number that is too long, with the number of its digits if
it is known. -/
def tooLongText (digits? : Option Nat) : String :=
  let detail := digits?.elim "" fun digits =>
    ": value has " ++ toString digits ++ " digits"
  "Exceeds the limit (" ++ toString digitLimit
    ++ " digits) for integer string conversion" ++ detail
    ++ "; use sys.set_int_max_str_digits() to increase the limit"

/-- The most characters of a text that a report about it shows. -/
def shownLimit : Nat := 200

/-- The report of a text that spells no number in a base. -/
def Fault.message (base : Nat) (text : String) : Fault → String
  | malformed =>
    "invalid literal for int() with base " ++ toString base ++ ": "
      ++ String.ofList ((quoted text).toList.take shownLimit)
  | tooLong digits => tooLongText (some digits)

/-- The letter that marks a base, after a zero. -/
def baseMark? : Nat → Option Char
  | 2 => some 'b'
  | 8 => some 'o'
  | 16 => some 'x'
  | _ => none

/-- The text without the mark of its base. -/
def withoutMark (base : Nat) (cs : List Char) : List Char :=
  match cs with
  | '0' :: c :: rest => if some c.toLower = baseMark? base then rest else cs
  | _ => cs

/-- The number that a text spells in a base. -/
def ofChars (base : Nat) (cs : List Char) : Except Fault Int :=
  let cs := (withoutMargins cs).map latinDigit
  let digits := withoutMark base (unsigned cs)
  let count := (digits.takeWhile (·.isDigit)).length
  if base = 10 && digitLimit < count then .error (.tooLong count)
  else
    match digits, digitsValue? base digits with
    | _ :: _, some n =>
      .ok (if cs.head? = some '-' then -(n : Int) else n)
    | _, _ => .error .malformed

/-- The number in decimal, if it is not too long. -/
def text? (n : Int) : Option String :=
  let ds := Nat.toDigits 10 n.natAbs
  if digitLimit < ds.length then none
  else some (String.ofList (if n < 0 then '-' :: ds else ds))

end LogQuery.Whole
