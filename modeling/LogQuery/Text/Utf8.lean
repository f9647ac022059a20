/-
Text files: UTF-8 and line ends.

A file that is no UTF-8 is reported by its first defect. The lead byte of a
character fixes how many tail bytes are owed and in what range the first of
them lies; all later ones lie in the range that tail bytes have.
-/
import LogQuery.Text.Hex

namespace LogQuery.Text

-- ================================================================= defects

/-- What is wrong with a byte sequence. -/
inductive Utf8Defect.Reason where
  /-- No character starts with this byte. -/
  | startByte
  /-- A tail byte was owed and something else came. -/
  | continuationByte
  /-- A tail byte was owed and the text ended. -/
  | endOfData
deriving DecidableEq, Repr

/-- The first place at which bytes stop being UTF-8: the offset of the
unfinished character, its lead byte and how many bytes of it were read. -/
structure Utf8Defect where
  reason : Utf8Defect.Reason
  offset : Nat
  length : Nat
  lead : UInt8
deriving DecidableEq, Repr

/-- How many tail bytes a lead byte asks for, and the range of the first. -/
def tailsOwed? (lead : UInt8) : Option (Nat × UInt8 × UInt8) :=
  if lead < 0x80 then some (0, 0x80, 0xBF)
  else if lead < 0xC2 then none
  else if lead < 0xE0 then some (1, 0x80, 0xBF)
  else if lead = 0xE0 then some (2, 0xA0, 0xBF)
  else if lead = 0xED then some (2, 0x80, 0x9F)
  else if lead < 0xF0 then some (2, 0x80, 0xBF)
  else if lead = 0xF0 then some (3, 0x90, 0xBF)
  else if lead < 0xF4 then some (3, 0x80, 0xBF)
  else if lead = 0xF4 then some (3, 0x80, 0x8F)
  else none

/-- What is wrong with the tails, if anything, and how many bytes of the
character were right. -/
def tailDefect? (seen : Nat) (low high : UInt8) :
    Nat → List UInt8 → Option (Utf8Defect.Reason × Nat)
  | 0, _ => none
  | _ + 1, [] => some (.endOfData, seen)
  | owed + 1, b :: bs =>
    if low ≤ b ∧ b ≤ high then tailDefect? (seen + 1) 0x80 0xBF owed bs
    else some (.continuationByte, seen)

/-- The first defect of bytes that start at `offset`. The first `skipped`
bytes are tails that have been looked at. -/
def firstDefect? (offset skipped : Nat) : List UInt8 → Option Utf8Defect
  | [] => none
  | b :: bs =>
    match skipped with
    | skipped + 1 => firstDefect? (offset + 1) skipped bs
    | 0 =>
      match tailsOwed? b with
      | none => some ⟨.startByte, offset, 1, b⟩
      | some (owed, low, high) =>
        match tailDefect? 1 low high owed bs with
        | some (reason, length) => some ⟨reason, offset, length, b⟩
        | none => firstDefect? (offset + 1) owed bs

namespace Utf8Defect

/-- What is wrong, in words. -/
def Reason.text : Reason → String
  | startByte => "invalid start byte"
  | continuationByte => "invalid continuation byte"
  | endOfData => "unexpected end of data"

/-- The report of a file that is no UTF-8. -/
def message (d : Utf8Defect) : String :=
  let place :=
    if d.length ≤ 1 then
      "byte 0x" ++ hexPadded 2 d.lead.toNat ++ " in position "
        ++ toString d.offset
    else
      "bytes in position " ++ toString d.offset ++ "-"
        ++ toString (d.offset + d.length - 1)
  "'utf-8' codec can't decode " ++ place ++ ": " ++ d.reason.text

/-- The defect as it is seen by a reader that takes a file in pieces: a
character cut off by the end of the file is met again on its own. -/
def inPieces (d : Utf8Defect) : Utf8Defect :=
  match d.reason with
  | .endOfData => { d with offset := 0 }
  | _ => d

end Utf8Defect

-- ================================================================ decoding

/-- The text that UTF-8 bytes stand for. -/
def decodeUtf8 (bytes : ByteArray) : Except Utf8Defect String :=
  match String.fromUTF8? bytes with
  | some s => .ok s
  | none =>
    .error ((firstDefect? 0 0 bytes.toList).getD ⟨.startByte, 0, 0, 0⟩)

/-- Every line end, a carriage return with or without a line feed, becomes
one line feed. -/
def unifyLineEnds : List Char → List Char
  | [] => []
  | '\r' :: '\n' :: cs => '\n' :: unifyLineEnds cs
  | c :: cs => (if c = '\r' then '\n' else c) :: unifyLineEnds cs

/-- The text of a file: decoded, with unified line ends. -/
def decodeFile (bytes : ByteArray) : Except Utf8Defect String :=
  (decodeUtf8 bytes).map fun s => String.ofList (unifyLineEnds s.toList)

end LogQuery.Text
