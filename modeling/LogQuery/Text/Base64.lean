/-
Bytes written with the 64 digits of base 64.

Four digits stand for three bytes. The last group may be shorter and is then
filled up with equals signs. Characters that are no digits mean nothing.
-/

namespace LogQuery.Text.Base64

/-- The value of a digit. -/
def value? (c : Char) : Option Nat :=
  if 'A' ≤ c ∧ c ≤ 'Z' then some (c.toNat - 'A'.toNat)
  else if 'a' ≤ c ∧ c ≤ 'z' then some (c.toNat - 'a'.toNat + 26)
  else if c.isDigit then some (c.toNat - '0'.toNat + 52)
  else if c = '+' then some 62
  else if c = '/' then some 63
  else none

/-- The bytes of characters that follow the digits `group` of an unfinished
group and `filled` equals signs. -/
def decodeAfter (group : List Nat) (filled : Nat) :
    List Char → Option (List UInt8)
  | [] => if group.isEmpty then some [] else none
  | c :: cs =>
    if c = '=' then
      if 2 ≤ group.length then
        if 4 ≤ group.length + filled + 1 then some []
        else decodeAfter group (filled + 1) cs
      else decodeAfter group filled cs
    else
      match value? c, group with
      | none, _ => decodeAfter group filled cs
      | some n, [] => decodeAfter [n] 0 cs
      | some n, [a] =>
        (Nat.toUInt8 (4 * a + n / 16) :: ·) <$> decodeAfter [a, n] 0 cs
      | some n, [a, b] =>
        (Nat.toUInt8 (16 * (b % 16) + n / 4) :: ·)
          <$> decodeAfter [a, b, n] 0 cs
      | some n, _ :: _ :: c :: _ =>
        (Nat.toUInt8 (64 * (c % 4) + n) :: ·) <$> decodeAfter [] 0 cs

/-- The bytes that characters stand for; none if a group is too short. -/
def decode? (cs : List Char) : Option (List UInt8) := decodeAfter [] 0 cs

end LogQuery.Text.Base64
