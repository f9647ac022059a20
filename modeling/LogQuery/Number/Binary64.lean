/-
Binary floating-point numbers of 64 bits, and their shortest decimal text.

A finite number is a significand times a power of two, so all questions are
questions about natural numbers: a ratio is rounded to the nearest number,
ties to the even significand, and the text of a number has the fewest digits
that round to it again.
-/

namespace LogQuery

/-- A number of 64 bits. A finite one is `significand * 2 ^ exponent`. -/
inductive Binary64 where
  | notANumber
  | infinite (negative : Bool)
  | finite (negative : Bool) (significand : Nat) (exponent : Int)
deriving DecidableEq, Repr

namespace Binary64

/-- `2 ^ e` or `10 ^ e` as a ratio. -/
def powerRatio (base : Nat) (e : Int) : Nat × Nat :=
  if e < 0 then (1, Nat.pow base e.natAbs) else (Nat.pow base e.natAbs, 1)

/-- The natural number nearest to `n / d`, of two the even one. -/
def roundDiv (n d : Nat) : Nat :=
  let q := n / d
  let r := 2 * (n % d)
  if r < d then q else if d < r then q + 1 else q + q % 2

/-- The least significand of all 53 bits; the smallest numbers of all have
smaller ones. -/
def leastNormal : Nat := Nat.pow 2 52

/-- The number nearest to `num / den`. -/
def ofRatio (negative : Bool) (num den : Nat) : Binary64 :=
  if num = 0 then finite negative 0 0
  else
    let rough : Int := (num.log2 : Int) - den.log2 - 52
    let (up, down) := powerRatio 2 rough
    let e := max (-1074)
      (if num * down < leastNormal * (den * up) then rough - 1 else rough)
    let (up, down) := powerRatio 2 e
    let m := roundDiv (num * down) (den * up)
    let (m, e) :=
      if m = 2 * leastNormal then (leastNormal, e + 1) else (m, e)
    if 971 < e then infinite negative else finite negative m e

/-- The number nearest to `n * 10 ^ e`. Powers too large or too small to
matter are not computed. -/
def ofDecimal (negative : Bool) (n : Nat) (e : Int) : Binary64 :=
  let size := (Nat.toDigits 10 n).length
  if n = 0 || e + size < -400 then finite negative 0 0
  else if 400 < e + size then infinite negative
  else
    let (up, down) := powerRatio 10 e
    ofRatio negative (n * up) down

/-- How many decimal digits stand before the point of `num / den`; negative
if zeros follow the point. `fuel` bounds their number. -/
def pointPosition : Nat → Nat → Nat → Int
  | 0, _, _ => 0
  | fuel + 1, num, den =>
    if den ≤ num then (Nat.toDigits 10 (num / den)).length
    else if num = 0 then 0
    else pointPosition fuel (num * 10) den - 1

/-- The decimal digits of `num / den` rounded to `count` digits towards the
side that gives the number back, if one of both does: the digits and the
position of the point. The nearer side goes first; halfway, the even one. -/
def digitsBack? (num den count : Nat) (point : Int) : Option (Nat × Int) :=
  let shift := (count : Int) - point
  let (up, down) := powerRatio 10 shift
  let n := num * up
  let d := den * down
  let low := n / d
  let gives (x : Nat) : Bool :=
    ofRatio false (x * down) up = ofRatio false num den
  let near :=
    if roundDiv n d = low then [low, low + 1] else [low + 1, low]
  (near.find? gives).map fun x => (x, point)

/-- The fewest digits that give a number back, as a natural number, and the
position of the point counted from its left end. -/
def shortest (m : Nat) (e : Int) : List Char × Int :=
  let (up, down) := powerRatio 2 e
  let num := m * up
  let point := pointPosition 400 num down
  let found := (List.range 17).findSome? fun i =>
    (digitsBack? num down (i + 1) point).map fun r => (r.1, i + 1)
  match found with
  | none => (['0'], 1)
  | some (n, count) =>
    let ds := Nat.toDigits 10 n
    let point := point + ((ds.length : Int) - count)
    let kept := (ds.reverse.dropWhile (· = '0')).reverse
    (kept, point)

/-- The text of a number: positional from 0.0001 up to 16 digits before the
point, otherwise with an exponent of at least two digits. -/
def text : Binary64 → String
  | notANumber => "nan"
  | infinite negative => if negative then "-inf" else "inf"
  | finite negative m e =>
    let sign := if negative then "-" else ""
    if m = 0 then sign ++ "0.0"
    else
      let (ds, point) := shortest m e
      sign ++ String.ofList (
        if point ≤ -4 || 16 < point then
          let power := point - 1
          let digits := Nat.toDigits 10 power.natAbs
          let mark := if power < 0 then '-' else '+'
          let tail := if ds.length ≤ 1 then [] else '.' :: ds.drop 1
          ds.take 1 ++ tail ++ ['e', mark]
            ++ List.replicate (2 - digits.length) '0' ++ digits
        else if point ≤ 0 then
          ['0', '.'] ++ List.replicate point.natAbs '0' ++ ds
        else
          let whole := point.toNat
          if ds.length ≤ whole then
            ds ++ List.replicate (whole - ds.length) '0' ++ ['.', '0']
          else ds.take whole ++ '.' :: ds.drop whole)

end Binary64

end LogQuery
