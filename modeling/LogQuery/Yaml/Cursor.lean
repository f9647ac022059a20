/-
A place in a YAML text.

Indentation gives YAML its structure, so a place knows its line and column
beside the text that follows it.
-/

namespace LogQuery.Yaml

-- ============================================================== characters

/-- Characters that end a line. -/
def isBreak (c : Char) : Bool :=
  c = '\n' || c = '\r' || c = '\u0085' || c = '\u2028' || c = '\u2029'

/-- Nothing but the end, white space or a line end follows. -/
def separated : List Char → Bool
  | [] => true
  | c :: _ => c = ' ' || c = '\t' || isBreak c

/-- A line end at the start of the text: the character that it stands for
and how many characters it takes. -/
def lineBreak? : List Char → Option (Char × Nat)
  | '\r' :: '\n' :: _ => some ('\n', 2)
  | c :: _ =>
    if c = '\u2028' || c = '\u2029' then some (c, 1)
    else if isBreak c then some ('\n', 1)
    else none
  | [] => none

/-- The text starts with one of the marks between documents. Such a mark
counts at the start of a line only. -/
def atDocumentMark (cs : List Char) : Bool :=
  (cs.take 3 = ['-', '-', '-'] || cs.take 3 = ['.', '.', '.'])
    && separated (cs.drop 3)

/-- Characters that a YAML text may hold. -/
def isAllowed (c : Char) : Bool :=
  let n := c.toNat
  n = 0x09 || n = 0x0A || n = 0x0D || (0x20 ≤ n && n ≤ 0x7E) || n = 0x85
    || (0xA0 ≤ n && n ≤ 0xD7FF) || (0xE000 ≤ n && n ≤ 0xFFFD) || 0x10000 ≤ n

-- ================================================================== places

/-- What follows, how much came before, and the line and column. -/
structure Cursor where
  rest : List Char
  index : Nat
  line : Nat
  column : Nat

namespace Cursor

/-- The start of a text. A byte order mark there is no part of it. -/
def ofChars : List Char → Cursor
  | '\uFEFF' :: cs => ⟨cs, 1, 0, 0⟩
  | cs => ⟨cs, 0, 0, 0⟩

/-- The place `n` characters further on. -/
def advance : Nat → Cursor → Cursor
  | 0, k => k
  | n + 1, k =>
    match k.rest with
    | [] => k
    | c :: cs =>
      let ended := isBreak c && !(c = '\r' && cs.head? = some '\n')
      advance n {
        rest := cs
        index := k.index + 1
        line := if ended then k.line + 1 else k.line
        column :=
          if ended then 0
          else if c = '\uFEFF' then k.column
          else k.column + 1 }

/-- The place at which `rest` is what follows. -/
def upTo (k : Cursor) (rest : List Char) : Cursor :=
  k.advance (k.rest.length - rest.length)

end Cursor

end LogQuery.Yaml
