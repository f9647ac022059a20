/-
Texts in quotation marks, as messages and tables show them.

Single quotes, unless the text holds single quotes and no double ones. A
backslash stands before the quotes in use and before a backslash, and every
character that is not printable is written by its code point.
-/
import LogQuery.Text.Hex
import LogQuery.Text.Printable

namespace LogQuery.Text

/-- A character inside quotation marks `quote`. -/
def quotedChar (quote c : Char) : List Char :=
  if c = quote || c = '\\' then ['\\', c]
  else if c = '\t' then ['\\', 't']
  else if c = '\n' then ['\\', 'n']
  else if c = '\r' then ['\\', 'r']
  else if isPrintable c then [c]
  else if c.toNat < 0x100 then '\\' :: 'x' :: (hexPadded 2 c.toNat).toList
  else if c.toNat < 0x10000 then '\\' :: 'u' :: (hexPadded 4 c.toNat).toList
  else '\\' :: 'U' :: (hexPadded 8 c.toNat).toList

/-- The quotation mark that suits a text. -/
def quoteFor (cs : List Char) : Char :=
  if cs.contains '\'' && !cs.contains '"' then '"' else '\''

/-- The text in quotation marks. -/
def quoted (s : String) : String :=
  let cs := s.toList
  let quote := quoteFor cs
  String.ofList (quote :: cs.flatMap (quotedChar quote) ++ [quote])

/-- Bytes in quotation marks. Those that are no printable ASCII characters
are written as numbers. -/
def quotedBytes (bytes : List UInt8) : String :=
  let cs := bytes.map fun b => Char.ofNat b.toNat
  let quote := quoteFor cs
  let byte (c : Char) : List Char :=
    if c.toNat < 0x80 then quotedChar quote c
    else '\\' :: 'x' :: (hexPadded 2 c.toNat).toList
  String.ofList ('b' :: quote :: cs.flatMap byte ++ [quote])

end LogQuery.Text
