/-
Cutting a YAML text into tokens.

Block structure comes from columns: a deeper column opens a collection, a
shallower one closes those that lie deeper. Whether a scalar is a mapping key
only shows at the colon behind it, so the last place at which a key could
have started is remembered for each level of flow brackets, and the key token
is put there once the colon comes. A key has to stand on one line.
-/
import LogQuery.Text.Utf8
import LogQuery.Yaml.Scalar
import LogQuery.Yaml.Token

namespace LogQuery.Yaml

open Text

/-- A place at which a mapping key may have started: the number of tokens
before it, whether only a key can stand there, and where it is. -/
structure OpenKey where
  position : Nat
  isRequired : Bool
  index : Nat
  line : Nat
  column : Nat

/-- The state of a scan: the place, the tokens so far, how many flow
brackets are open, the columns of the open block collections, whether a key
may start here, and the possible keys by flow level. -/
structure TokenScan where
  cursor : Cursor
  tokens : Array Token
  flowLevel : Nat
  indent : Int
  outerIndents : List Int
  allowsKey : Bool
  openKeys : List (Nat × OpenKey)

namespace TokenScan

/-- The start of a text. -/
def start (cs : List Char) : TokenScan where
  cursor := .ofChars cs
  tokens := #[]
  flowLevel := 0
  indent := -1
  outerIndents := []
  allowsKey := true
  openKeys := []

def inFlow (s : TokenScan) : Bool := s.flowLevel ≠ 0

def push (s : TokenScan) (t : Token) : TokenScan :=
  { s with tokens := s.tokens.push t }

/-- One token for the next `n` characters. -/
def take (s : TokenScan) (n : Nat) (t : Token) : TokenScan :=
  { s with tokens := s.tokens.push t, cursor := s.cursor.advance n }

-- ============================================================= indentation

/-- Opens a block collection at `column` unless it lies in one there. -/
def deepen (s : TokenScan) (column : Nat) : Option TokenScan :=
  if s.indent < column then
    some { s with
      indent := column
      outerIndents := s.indent :: s.outerIndents }
  else none

/-- Closes the block collections that lie deeper than `column`. -/
def unwind (s : TokenScan) (column : Int) : TokenScan :=
  if s.inFlow then s else go s.outerIndents s
where
  /-- Closes collections one by one, given the columns around them. -/
  go (outer : List Int) (s : TokenScan) : TokenScan :=
    if s.indent ≤ column then s
    else
      match outer with
      | [] => s
      | i :: outer =>
        go outer { s.push .blockEnd with indent := i, outerIndents := outer }
  termination_by outer.length

-- ==================================================================== keys

/-- Forgets the keys that can no longer be completed; none of them may be
required. -/
def dropStaleKeys (s : TokenScan) : Option TokenScan :=
  let isStale (k : OpenKey) : Bool :=
    k.line ≠ s.cursor.line || 1024 < s.cursor.index - k.index
  if s.openKeys.any fun x => isStale x.2 && x.2.isRequired then none
  else some { s with openKeys := s.openKeys.filter fun x => !isStale x.2 }

/-- Gives up the key of this flow level; it may not be required. -/
def dropKey (s : TokenScan) : Option TokenScan :=
  match s.openKeys.lookup s.flowLevel with
  | some k =>
    if k.isRequired then none
    else some { s with
      openKeys := s.openKeys.filter fun x => x.1 ≠ s.flowLevel }
  | none => some s

/-- Remembers that a key may start here. -/
def openKey (s : TokenScan) : Option TokenScan :=
  if s.allowsKey then do
    let s ← s.dropKey
    let k := s.cursor
    let key : OpenKey := {
      position := s.tokens.size
      isRequired := !s.inFlow && s.indent = (k.column : Int)
      index := k.index
      line := k.line
      column := k.column }
    some { s with openKeys := (s.flowLevel, key) :: s.openKeys }
  else some s

-- ============================================================== indicators

/-- A mark between documents. -/
def documentMark (s : TokenScan) (t : Token) : Option TokenScan := do
  let s ← (s.unwind (-1)).dropKey
  some { s.take 3 t with allowsKey := false }

/-- An opening flow bracket. -/
def openFlow (s : TokenScan) (t : Token) : Option TokenScan := do
  let s ← s.openKey
  some { s.take 1 t with flowLevel := s.flowLevel + 1, allowsKey := true }

/-- A closing flow bracket. One that closes nothing fits no document. -/
def closeFlow (s : TokenScan) (t : Token) : Option TokenScan := do
  let s ← s.dropKey
  match s.flowLevel with
  | 0 => none
  | n + 1 => some { s.take 1 t with flowLevel := n, allowsKey := false }

/-- A comma between flow items. -/
def comma (s : TokenScan) : Option TokenScan := do
  let s ← { s with allowsKey := true }.dropKey
  some (s.take 1 .comma)

/-- Opens a block collection here for an indicator that starts an item of
it, if there is room for one. -/
def openBlock (s : TokenScan) (t : Token) : Option TokenScan :=
  if s.inFlow then some s
  else if !s.allowsKey then none
  else
    match s.deepen s.cursor.column with
    | some s => some (s.push t)
    | none => some s

/-- The dash of a block sequence item. -/
def entry (s : TokenScan) : Option TokenScan := do
  let s ← s.openBlock .blockSequence
  let s ← { s with allowsKey := true }.dropKey
  some (s.take 1 .entry)

/-- The question mark of an explicit key. -/
def explicitKey (s : TokenScan) : Option TokenScan := do
  let s ← s.openBlock .blockMapping
  let s ← { s with allowsKey := !s.inFlow }.dropKey
  some (s.take 1 .key)

/-- The colon of a value. The key before it gets its token, and a mapping
starts there if none did. -/
def value (s : TokenScan) : Option TokenScan :=
  match s.openKeys.lookup s.flowLevel with
  | some k =>
    let keys := s.openKeys.filter fun x => x.1 ≠ s.flowLevel
    let keyed := { s with
      openKeys := keys
      tokens := s.tokens.insertIdxIfInBounds k.position .key
      allowsKey := false }
    let opened :=
      if s.inFlow then keyed
      else
        match keyed.deepen k.column with
        | some d => { d with
            tokens := d.tokens.insertIdxIfInBounds k.position .blockMapping }
        | none => keyed
    some (opened.take 1 .value)
  | none => do
    let s ← s.openBlock .blockMapping
    let s ← { s with allowsKey := !s.inFlow }.dropKey
    some (s.take 1 .value)

-- ============================================================ names and tags

/-- Characters of anchor names and tag handles. -/
def isNameChar (c : Char) : Bool := c.isAlphanum || c = '-' || c = '_'

/-- Characters of tags. -/
def isTagChar (c : Char) : Bool :=
  isNameChar c || ";/?:@&=+$,.!~*'()[]%".toList.contains c

/-- An alias or an anchor. -/
def name (s : TokenScan) (t : String → Token) : Option TokenScan := do
  let s ← s.openKey
  let rest := s.cursor.rest.drop 1
  let cs := rest.takeWhile isNameChar
  let after := rest.drop cs.length
  let closed := after.head?.any fun c =>
    ['?', ':', ',', ']', '\x7d', '%', '@', '\u0060'].contains c
  if cs.isEmpty || !(separated after || closed) then none
  else some { s.take (cs.length + 1) (t (String.ofList cs)) with
    allowsKey := false }

/-- The bytes of characters that are written as numbers after percent signs,
and what follows them. -/
def escapedBytes? : List Char → Option (List UInt8 × List Char)
  | '%' :: a :: b :: cs => do
    let n ← digitsValue? 16 [a, b]
    let (bytes, rest) ← escapedBytes? cs
    some (n.toUInt8 :: bytes, rest)
  | '%' :: _ => none
  | cs => some ([], cs)

/-- The name in a tag, some characters of which may be written as numbers,
and what follows it. -/
def tagName? : Nat → List Char → Option (List Char × List Char)
  | 0, _ => none
  | fuel + 1, cs =>
    let plain := cs.takeWhile fun c => isTagChar c && c ≠ '%'
    let rest := cs.drop plain.length
    if rest.head? = some '%' then do
      let (bytes, rest) ← escapedBytes? rest
      let s ← (decodeUtf8 ⟨bytes.toArray⟩).toOption
      let (more, rest) ← tagName? fuel rest
      some (plain ++ s.toList ++ more, rest)
    else some (plain, rest)

/-- A tag name that is not empty, and what follows it. -/
def someTagName? (cs : List Char) : Option (String × List Char) := do
  let (name, rest) ← tagName? cs.length.succ cs
  if rest.length = cs.length then none
  else some (String.ofList name, rest)

/-- The handle of a tag after its first `!`, with its marks, and what follows
it. -/
def tagHandle? (cs : List Char) : Option (String × List Char) :=
  let name := cs.takeWhile isNameChar
  match cs.drop name.length with
  | '!' :: rest => some ("!" ++ String.ofList name ++ "!", rest)
  | _ => none

/-- A tag after its `!`: its handle, its suffix and what follows them. -/
def tagParts? (cs : List Char) :
    Option (Option String × String × List Char) :=
  match cs with
  | '<' :: rest => do
    let (name, rest) ← someTagName? rest
    if rest.head? = some '>' then some (none, name, rest.drop 1) else none
  | _ =>
    if separated cs then some (none, "!", cs)
    else
      let word := cs.takeWhile fun c => c ≠ ' ' && !isBreak c
      do
        let (handle, rest) ←
          if word.contains '!' then tagHandle? cs else some ("!", cs)
        let (name, rest) ← someTagName? rest
        some (some handle, name, rest)

/-- Whether a tag may end here. -/
def endsTag (cs : List Char) : Bool := separated cs && cs.head? ≠ some '\t'

/-- A tag. White space has to follow it. -/
def tag (s : TokenScan) : Option TokenScan := do
  let s ← s.openKey
  let (handle?, suffix, after) ← tagParts? (s.cursor.rest.drop 1)
  if !endsTag after then none
  else some { s.push (.tag handle? suffix) with
    cursor := s.cursor.upTo after
    allowsKey := false }

-- ============================================================== directives

/-- The text without blanks in front. -/
def afterBlanks (cs : List Char) : List Char := cs.dropWhile (· = ' ')

/-- The version of YAML, two numbers with a point between them: the first of
them and what follows. -/
def version? (cs : List Char) : Option (Nat × List Char) :=
  let main := cs.takeWhile (·.isDigit)
  match cs.drop main.length with
  | '.' :: more =>
    let minor := more.takeWhile (·.isDigit)
    let rest := more.drop minor.length
    if main.isEmpty || minor.isEmpty || !endsTag rest then none
    else (digitsValue? 10 main).map (·, rest)
  | _ => none

/-- A handle of tags and what it stands for, and what follows. -/
def handleMeaning? (cs : List Char) :
    Option (String × String × List Char) :=
  match cs with
  | '!' :: cs => do
    let (handle, rest) ←
      if cs.head? = some ' ' then some ("!", cs) else tagHandle? cs
    if rest.head? ≠ some ' ' then none
    else
      let (meaning, rest) ← someTagName? (afterBlanks rest)
      if endsTag rest then some (handle, meaning, rest) else none
  | _ => none

/-- A directive after its percent sign, and what follows it. -/
def directive? (cs : List Char) : Option (Directive × List Char) := do
  let name := cs.takeWhile isNameChar
  let rest := cs.drop name.length
  if name.isEmpty || !endsTag rest then none
  else if name = "YAML".toList then
    let (main, rest) ← version? (afterBlanks rest)
    some (.version main, rest)
  else if name = "TAG".toList then
    let (handle, meaning, rest) ← handleMeaning? (afterBlanks rest)
    some (.handle handle meaning, rest)
  else some (.other, rest.dropWhile (!isBreak ·))

/-- A directive. Only a comment may follow it on its line. -/
def directive (s : TokenScan) : Option TokenScan := do
  let s ← (s.unwind (-1)).dropKey
  let (d, after) ← directive? (s.cursor.rest.drop 1)
  let rest := afterBlanks after
  if rest.isEmpty || rest.head?.any (fun c => c = '#' || isBreak c) then
    some { s.push (.directive d) with
      cursor := s.cursor.upTo rest
      allowsKey := false }
  else none

-- ================================================================= scalars

/-- A plain scalar. After a line end behind it a key may start. -/
def plain (s : TokenScan) : Option TokenScan := do
  let s ← s.openKey
  let (text, k, ended) := plainFrom s.inFlow (s.indent + 1)
    s.cursor.rest.length.succ [] false s.cursor
  some { s.push (.scalar (String.ofList text) true) with
    cursor := k
    allowsKey := ended }

/-- A scalar in quotation marks. -/
def quoted (s : TokenScan) (quote : Char) : Option TokenScan := do
  let s ← s.openKey
  let rest := s.cursor.rest.drop 1
  match quotedFrom quote rest.length.succ rest with
  | .ok (text, after) =>
    some { s.push (.scalar (String.ofList text) false) with
      cursor := s.cursor.upTo after
      allowsKey := false }
  | .error (.noCharacter n) =>
    some (s.push (.noCharacter n))
  | .error .malformed => none

/-- A block scalar. -/
def block (s : TokenScan) (folded : Bool) : Option TokenScan := do
  let s ← { s with allowsKey := true }.dropKey
  let (text, k) ← blockFrom? folded s.indent (s.cursor.advance 1)
  some { s.push (.scalar (String.ofList text) false) with cursor := k }

-- ================================================================= scanning

/-- White space, comments and line ends before a token: how many characters,
and whether a line ended. -/
def gap (inComment : Bool) : List Char → Nat × Bool
  | [] => (0, false)
  | c :: cs =>
    if isBreak c then ((gap false cs).1 + 1, true)
    else if inComment then ((gap true cs).1 + 1, (gap true cs).2)
    else if c = ' ' then ((gap false cs).1 + 1, (gap false cs).2)
    else if c = '#' then ((gap true cs).1 + 1, (gap true cs).2)
    else (0, false)

/-- Goes to the next token, closing the collections that end before it. -/
def approach (s : TokenScan) : Option TokenScan := do
  let (n, ended) := gap false s.cursor.rest
  let s := { s with
    cursor := s.cursor.advance n
    allowsKey := s.allowsKey || (ended && !s.inFlow) }
  let s ← s.dropStaleKeys
  some (s.unwind s.cursor.column)

/-- Characters that start no plain scalar, some of them unless text
follows. -/
def startsPlain (inFlow : Bool) (c : Char) (cs : List Char) : Bool :=
  !(separated (c :: cs)
      || "-?:,[]\x7b\x7d#&*!|>'\"%@\u0060".toList.contains c)
    || (!separated cs && (c = '-' || (!inFlow && (c = '?' || c = ':'))))

/-- Reads the next token, which starts with `c`. -/
def next (s : TokenScan) (c : Char) (cs : List Char) : Option TokenScan :=
  let atStart := s.cursor.column = 0
  if atStart && c = '%' then s.directive
  else if atStart && c = '-' && atDocumentMark (c :: cs) then
    s.documentMark .documentStart
  else if atStart && c = '.' && atDocumentMark (c :: cs) then
    s.documentMark .documentEnd
  else if c = '[' then s.openFlow .flowSequence
  else if c = '\x7b' then s.openFlow .flowMapping
  else if c = ']' then s.closeFlow .flowSequenceEnd
  else if c = '\x7d' then s.closeFlow .flowMappingEnd
  else if c = ',' then s.comma
  else if c = '-' && separated cs then
    -- an item of a block sequence fits no flow collection
    if s.inFlow then none else s.entry
  else if c = '?' && (s.inFlow || separated cs) then s.explicitKey
  else if c = ':' && (s.inFlow || separated cs) then s.value
  else if c = '*' then s.name .alias
  else if c = '&' then s.name .anchor
  else if c = '!' then s.tag
  else if c = '|' && !s.inFlow then s.block false
  else if c = '>' && !s.inFlow then s.block true
  else if c = '\'' || c = '"' then s.quoted c
  else if startsPlain s.inFlow c cs then s.plain
  else none

/-- Whether nothing more is read. -/
def isStopped (s : TokenScan) : Bool :=
  match s.tokens.back? with
  | some (.noCharacter _) => true
  | _ => false

/-- Reads tokens to the end of the text; `fuel` bounds their number. -/
def run : Nat → TokenScan → Option (Array Token)
  | 0, _ => none
  | fuel + 1, s => do
    if s.isStopped then some s.tokens
    else
      let s ← s.approach
      match s.cursor.rest with
      | [] =>
        let s ← (s.unwind (-1)).dropKey
        some (s.push .streamEnd).tokens
      | c :: cs => run fuel (← s.next c cs)

end TokenScan

/-- The tokens of a text; none if it is no YAML. Each token but the last
takes at least one character. -/
def Token.ofChars? (cs : List Char) : Option (List Token) :=
  if cs.all isAllowed then
    (TokenScan.run (cs.length + 1) (.start cs)).map (·.toList)
  else none

end LogQuery.Yaml
