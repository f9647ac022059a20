/-
The text of a YAML scalar: plain, in quotation marks, or a block.

Within a scalar a single line end is folded into a space, and of several
line ends the first is dropped.
-/
import LogQuery.Text.Hex
import LogQuery.Yaml.Cursor

namespace LogQuery.Yaml

open Text

/-- What a line end becomes that is followed by the line ends `more`. -/
def foldBreaks (first : Char) (more : List Char) : List Char :=
  if first ≠ '\n' then first :: more
  else if more.isEmpty then [' ']
  else more

-- =================================================================== plain

/-- Characters that end a plain scalar inside a flow collection. -/
def flowStops : List Char := [',', '?', '[', ']', '\x7b', '\x7d']

/-- How many characters go on a plain scalar without a gap. -/
def plainExtent (inFlow : Bool) : List Char → Nat
  | [] => 0
  | c :: cs =>
    if separated (c :: cs) then 0
    else if c = ':' && (separated cs
        || (inFlow && cs.head?.any [',', '[', ']', '\x7b', '\x7d'].contains))
      then 0
    else if inFlow && flowStops.contains c then 0
    else plainExtent inFlow cs + 1

/-- Line ends and spaces after a line end: the line ends, what follows them,
and whether a mark between documents came up. -/
def plainBreaks : List Char → List Char × List Char × Bool
  | [] => ([], [], false)
  | '\r' :: '\n' :: cs => more '\n' cs (plainBreaks cs)
  | c :: cs =>
    if c = ' ' then plainBreaks cs
    else if isBreak c then
      more (if c = '\u2028' || c = '\u2029' then c else '\n') cs
        (plainBreaks cs)
    else ([], c :: cs, false)
where
  /-- Adds a line end in front of those found behind it. -/
  more (c : Char) (cs : List Char) (found : List Char × List Char × Bool) :
      List Char × List Char × Bool :=
    if atDocumentMark cs then ([c], cs, true)
    else (c :: found.1, found.2)

/-- The gap inside a plain scalar: the characters it stands for, what
follows it, and whether it holds a line end. A gap before a mark between
documents stands for nothing. -/
def plainGap (cs : List Char) : List Char × List Char × Bool :=
  let spaces := cs.takeWhile (· = ' ')
  let rest := cs.drop spaces.length
  match lineBreak? rest with
  | none => (spaces, rest, false)
  | some (c, n) =>
    let next := rest.drop n
    if atDocumentMark next then ([], next, true)
    else
      match plainBreaks next with
      | (_, after, true) => ([], after, true)
      | (breaks, after, false) => (foldBreaks c breaks, after, true)

/-- A plain scalar that is indented by at least `indent` columns: its text,
the place behind it, and whether a line ended there. `gap` is the text of the
gap just passed; `fuel` bounds the number of gaps. -/
def plainFrom (inFlow : Bool) (indent : Int) :
    Nat → List Char → Bool → Cursor → List Char × Cursor × Bool
  | 0, _, ended, k => ([], k, ended)
  | fuel + 1, gap, ended, k =>
    let n := plainExtent inFlow k.rest
    if n = 0 then ([], k, ended)
    else
      let part := gap ++ k.rest.take n
      let k := k.advance n
      let (next, rest, ended) := plainGap k.rest
      let k := k.upTo rest
      if next.isEmpty || k.rest.head? = some '#'
          || (!inFlow && (k.column : Int) < indent) then
        (part, k, ended)
      else
        let (text, k, ended) := plainFrom inFlow indent fuel next ended k
        (part ++ text, k, ended)

-- ============================================================== in quotes

/-- Line ends between quotation marks, with the space after them: the line
ends and what follows. No mark between documents may stand there. -/
def quotedBreaks : Nat → List Char → Option (List Char × List Char)
  | 0, _ => none
  | fuel + 1, cs =>
    if atDocumentMark cs then none
    else
      let rest := cs.dropWhile fun c => c = ' ' || c = '\t'
      match lineBreak? rest with
      | none => some ([], rest)
      | some (c, n) => do
        let (breaks, after) ← quotedBreaks fuel (rest.drop n)
        some (c :: breaks, after)

/-- The character that a backslash and a letter stand for. -/
def escapedChar? : Char → Option Char
  | '0' => some '\u0000'
  | 'a' => some '\u0007'
  | 'b' => some '\u0008'
  | 't' | '\t' => some '\t'
  | 'n' => some '\n'
  | 'v' => some '\u000B'
  | 'f' => some '\u000C'
  | 'r' => some '\r'
  | 'e' => some '\u001B'
  | ' ' => some ' '
  | '"' => some '"'
  | '\\' => some '\\'
  | '/' => some '/'
  | 'N' => some '\u0085'
  | '_' => some '\u00A0'
  | 'L' => some '\u2028'
  | 'P' => some '\u2029'
  | _ => none

/-- How many hexadecimal digits follow a backslash and a letter. -/
def escapeWidth? : Char → Option Nat
  | 'x' => some 2
  | 'u' => some 4
  | 'U' => some 8
  | _ => none

/-- The number that letters after a backslash give, and what follows. -/
def escapedNumber? : List Char → Option (Nat × List Char)
  | [] => none
  | c :: cs => do
    let width ← escapeWidth? c
    let ds := cs.take width
    if ds.length < width then none
    else some (← digitsValue? 16 ds, cs.drop width)

/-- Why a scalar can not be read. -/
inductive ScalarDefect where
  | malformed
  /-- No character has the number that is asked for. -/
  | noCharacter (number : Nat)

/-- What stands for half a character. The numbers from D800 to DFFF, two of
which make up a character in UTF-16, are no characters by themselves; a
private character stands for each of them. -/
def halfCharacter (n : Nat) : Char := Char.ofNat (0x100000 + n)

/-- The character with a number. -/
def characterOf (n : Nat) : Except ScalarDefect Char :=
  if 0x10FFFF < n then .error (.noCharacter n)
  else if n.isValidChar then .ok (Char.ofNat n)
  else .ok (halfCharacter n)

/-- What follows a backslash: the characters it stands for and the rest. -/
def escape (cs : List Char) :
    Except ScalarDefect (List Char × List Char) :=
  match escapedNumber? cs, lineBreak? cs with
  | some (n, rest), _ => (characterOf n).map fun c => ([c], rest)
  | none, some (_, n) =>
    (quotedBreaks cs.length.succ (cs.drop n)).elim (.error .malformed) .ok
  | none, none =>
    match cs with
    | [] => .error .malformed
    | c :: rest =>
      (escapedChar? c).elim (.error .malformed) fun e => .ok ([e], rest)

/-- A scalar after its opening quotation mark: its text and what follows the
closing one. -/
def quotedFrom (quote : Char) :
    Nat → List Char → Except ScalarDefect (List Char × List Char)
  | 0, _ => .error .malformed
  | _ + 1, [] => .error .malformed
  | fuel + 1, c :: cs =>
    if c = quote then
      if quote = '\'' && cs.head? = some '\'' then
        continueWith ['\''] (quotedFrom quote fuel (cs.drop 1))
      else .ok ([], cs)
    else if quote = '"' && c = '\\' then do
      let (text, rest) ← escape cs
      continueWith text (quotedFrom quote fuel rest)
    else if separated (c :: cs) then
      let spaces := (c :: cs).takeWhile fun c => c = ' ' || c = '\t'
      let rest := (c :: cs).drop spaces.length
      match lineBreak? rest with
      | none => continueWith spaces (quotedFrom quote fuel rest)
      | some (b, n) =>
        match quotedBreaks cs.length.succ (rest.drop n) with
        | none => .error .malformed
        | some (breaks, after) =>
          continueWith (foldBreaks b breaks) (quotedFrom quote fuel after)
    else continueWith [c] (quotedFrom quote fuel cs)
where
  /-- Puts text in front of what the rest stands for. -/
  continueWith (text : List Char)
      (found : Except ScalarDefect (List Char × List Char)) :
      Except ScalarDefect (List Char × List Char) :=
    found.map fun x => (text ++ x.1, x.2)

-- ================================================================== blocks

/-- What becomes of the line ends at the end of a block. -/
inductive Chomping where
  | strip
  | clip
  | keep
deriving DecidableEq

/-- The marks after `|` or `>`: what to do with the last line ends, and the
indentation if it is given. -/
def blockHeader? : List Char → Option (Chomping × Option Nat × List Char)
  | cs =>
    let (chomping, cs) := chompingMark cs
    match cs with
    | d :: rest =>
      if d = '0' then none
      else if '1' ≤ d && d ≤ '9' then
        let width := some (d.toNat - '0'.toNat)
        match chomping with
        | some m => ending m width rest
        | none =>
          let (chomping, rest) := chompingMark rest
          ending (chomping.getD .clip) width rest
      else ending (chomping.getD .clip) none cs
    | [] => ending (chomping.getD .clip) none []
where
  /-- A mark that says what to do with the last line ends. -/
  chompingMark : List Char → Option Chomping × List Char
    | '+' :: cs => (some .keep, cs)
    | '-' :: cs => (some .strip, cs)
    | cs => (none, cs)
  /-- Only spaces and a comment may end the line of the marks. -/
  ending (m : Chomping) (width : Option Nat) (cs : List Char) :
      Option (Chomping × Option Nat × List Char) :=
    if !separated cs then none
    else
      let rest := cs.dropWhile (· = ' ')
      let rest :=
        if rest.head? = some '#' then rest.dropWhile (!isBreak ·) else rest
      match rest, lineBreak? rest with
      | [], _ => some (m, width, [])
      | _, some (_, n) => some (m, width, rest.drop n)
      | _, none => none

/-- The empty lines before the first line of a block: their line ends, the
deepest indentation among them and the first line, and the place behind. -/
def blockIndent : Nat → Nat → Cursor → List Char × Nat × Cursor
  | 0, deepest, k => ([], deepest, k)
  | fuel + 1, deepest, k =>
    if k.rest.head? = some ' ' then
      let k := k.advance 1
      blockIndent fuel (max deepest k.column) k
    else
      match lineBreak? k.rest with
      | some (c, n) =>
        let (breaks, deepest, k) := blockIndent fuel deepest (k.advance n)
        (c :: breaks, deepest, k)
      | none => ([], deepest, k)

/-- Empty lines between lines indented by `indent`: their line ends and the
place behind them. -/
def blockBreaks (indent : Nat) : Nat → Cursor → List Char × Cursor
  | 0, k => ([], k)
  | fuel + 1, k =>
    let spaces := (k.rest.takeWhile (· = ' ')).length
    let k := k.advance (min spaces (indent - k.column))
    match lineBreak? k.rest with
    | some (c, n) =>
      let (breaks, k) := blockBreaks indent fuel (k.advance n)
      (c :: breaks, k)
    | none => ([], k)

/-- The lines of a block. `breaks` are the line ends of the empty lines just
passed. Gives the text up to the last line, that line's end, the line ends
behind it and the place there. -/
def blockLines (folded : Bool) (indent : Nat) :
    Nat → List Char → Cursor → List Char × List Char × List Char × Cursor
  | 0, breaks, k => ([], [], breaks, k)
  | fuel + 1, breaks, k =>
    if k.column ≠ indent || k.rest.isEmpty then ([], [], breaks, k)
    else
      let line := k.rest.takeWhile (!isBreak ·)
      let k := k.advance line.length
      let (ended, n) := match lineBreak? k.rest with
        | some (c, n) => ([c], n)
        | none => ([], 0)
      let (next, k) := blockBreaks indent k.rest.length.succ (k.advance n)
      let text := breaks ++ line
      if k.column = indent && !k.rest.isEmpty then
        let isText (cs : List Char) : Bool :=
          cs.head?.all fun c => c ≠ ' ' && c ≠ '\t'
        let joint :=
          if folded && ended = ['\n'] && isText line && isText k.rest then
            if next.isEmpty then [' '] else []
          else ended
        let (more, last) := blockLines folded indent fuel next k
        (text ++ joint ++ more, last)
      else (text, ended, next, k)

/-- A block after its `|` or `>`, inside a node indented by `indent`: its
text and the place behind it. -/
def blockFrom? (folded : Bool) (indent : Int) (k : Cursor) :
    Option (List Char × Cursor) := do
  let (chomping, width, rest) ← blockHeader? k.rest
  let k := k.upTo rest
  let least := max 1 (indent + 1).toNat
  let fuel := k.rest.length.succ
  let (breaks, indent, k) := match width with
    | some width =>
      let indent := least + width - 1
      let (breaks, k) := blockBreaks indent fuel k
      (breaks, indent, k)
    | none =>
      let (breaks, deepest, k) := blockIndent fuel 0 k
      (breaks, max least deepest, k)
  let (text, ended, after, k) := blockLines folded indent fuel breaks k
  match chomping with
  | .strip => some (text, k)
  | .clip => some (text ++ ended, k)
  | .keep => some (text ++ ended ++ after, k)

end LogQuery.Yaml
