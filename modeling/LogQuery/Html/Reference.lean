/-
Character references of HTML: `&eacute;`, `&#233;`, `&#xE9;`.

A reference ends with a semicolon, which belongs to it, or before any other
character that can not go on with it.
-/
import LogQuery.Html.Entity
import LogQuery.Number.Whole

namespace LogQuery.Html

open Text

/-- What was found at an ampersand. -/
inductive Reference where
  /-- A reference: the text it stands for and what follows it. -/
  | found (text rest : List Char)
  /-- No reference, but the ampersand stands for itself. -/
  | literal (text rest : List Char)
  /-- A number with too many digits. -/
  | tooLong (digits : Nat)
  /-- The text may have ended within a reference. -/
  | unfinished

namespace Reference

-- ================================================================= numbers

/-- The characters that numbers from 0x80 to 0x9F mean, although these are
control characters: they are read as Windows-1252. -/
def windows1252 : List (Nat × Nat) := [
  (0x80, 0x20AC), (0x82, 0x201A), (0x83, 0x0192), (0x84, 0x201E),
  (0x85, 0x2026), (0x86, 0x2020), (0x87, 0x2021), (0x88, 0x02C6),
  (0x89, 0x2030), (0x8A, 0x0160), (0x8B, 0x2039), (0x8C, 0x0152),
  (0x8E, 0x017D), (0x91, 0x2018), (0x92, 0x2019), (0x93, 0x201C),
  (0x94, 0x201D), (0x95, 0x2022), (0x96, 0x2013), (0x97, 0x2014),
  (0x98, 0x02DC), (0x99, 0x2122), (0x9A, 0x0161), (0x9B, 0x203A),
  (0x9C, 0x0153), (0x9E, 0x017E), (0x9F, 0x0178)]

/-- The character with a number. Zero is the number of none. -/
def numbered (n : Nat) : Char :=
  let n := (windows1252.lookup n).getD n
  if n ≠ 0 ∧ n.isValidChar then Char.ofNat n else '\uFFFD'

/-- A semicolon belongs to the reference before it. -/
def afterEnd : List Char → List Char
  | ';' :: cs => cs
  | cs => cs

def isHexDigit (c : Char) : Bool := (hexValue? c).isSome

/-- The base of the number after `&#`, its digits and what follows them. No
hexadecimal digit may follow. -/
def digits? (cs : List Char) : Option (Nat × List Char × List Char) :=
  let (base, ds, rest) := match cs with
    | x :: more =>
      if x = 'x' || x = 'X' then
        let ds := more.takeWhile isHexDigit
        (16, ds, more.drop ds.length)
      else
        let ds := cs.takeWhile Char.isDigit
        (10, ds, cs.drop ds.length)
    | [] => (10, [], [])
  if ds.isEmpty || rest.head?.all isHexDigit then none
  else some (base, ds, rest)

/-- What stands after `&#`. -/
def ofNumber (cs : List Char) : Reference :=
  match digits? cs with
  | some (base, ds, rest) =>
    match Whole.ofChars base ds with
    | .ok n => found [numbered n.toNat] (afterEnd rest)
    | .error _ => tooLong ds.length
  | none => if cs.contains ';' then literal ['&', '#'] cs else unfinished

-- =================================================================== names

def isNameChar (c : Char) : Bool := c.isAlphanum || c = '-' || c = '.'

/-- The name at the start of the text and what follows it. A name at the end
of the text is cut before its last dash or point. -/
def name? (cs : List Char) : Option (List Char × List Char) :=
  if !cs.head?.any (·.isAlpha) then none
  else
    let name := cs.takeWhile isNameChar
    match cs.drop name.length with
    | [] =>
      let cut := (name.reverse.dropWhile (·.isAlphanum)).drop 1
      if cut.isEmpty then none
      else some (cut.reverse, name.drop cut.length)
    | rest => some (name, rest)

/-- What stands after `&`. An unknown name is kept with its ampersand. -/
def ofName (cs : List Char) : Reference :=
  match name? cs with
  | some (name, rest) =>
    let text := match entity? (String.ofList name) with
      | some s => s.toList
      | none => '&' :: name
    found text (afterEnd rest)
  | none =>
    if cs.isEmpty || cs.head?.any (·.isAlpha) then unfinished
    else literal ['&'] cs

/-- What stands after an ampersand. -/
def ofChars : List Char → Reference
  | '#' :: cs => ofNumber cs
  | cs => ofName cs

end Reference

end LogQuery.Html
