/-
The nodes of a YAML document, read from its tokens.

Nodes are numbered. An alias stands for the node that has its anchor, which
may be a node around it, so a document is a tree only as far as aliases stay
what they are. Every node gets its kind: from its tag, from its text if it is
a plain scalar, or from its form.
-/
import LogQuery.Yaml.Implicit
import LogQuery.Yaml.Token.Scan

namespace LogQuery.Yaml

/-- A node with its number and its kind. -/
inductive Node where
  | scalar (id : Nat) (kind : Kind) (text : String)
  | sequence (id : Nat) (kind : Kind) (items : List Node)
  | mapping (id : Nat) (kind : Kind) (entries : List (Node × Node))
  | alias (anchor : String)

/-- A document: its outermost node, the nodes that have anchors, and how many
nodes there are. -/
structure Nodes where
  root : Node
  anchored : List (String × Node)
  count : Nat

namespace Node

/-- What the handles of tags stand for. -/
abbrev Handles := List (String × String)

/-- What handles stand for unless a directive says something else. -/
def usualHandles : Handles := [("!", "!"), ("!!", Kind.tagHead)]

/-- The tokens to come, the handles of tags, the anchors that are taken, the
finished nodes among those that have them, and how many nodes were begun. -/
structure Source where
  tokens : List Token
  handles : Handles
  taken : List String
  anchored : List (String × Node)
  count : Nat

/-- Reading that may fail. -/
abbrev Read := ExceptT Unit (StateM Source)

/-- The next token, which stays. -/
def peek : Read (Option Token) := do return (← get).tokens.head?

/-- Takes the next token away. -/
def skip : Read Unit := modify fun s => { s with tokens := s.tokens.drop 1 }

/-- Takes the next token away if it is `t`. -/
def skipIf (t : Token) : Read Bool := do
  if (← peek) = some t then
    skip
    return true
  else return false

/-- Takes `t` away or fails. -/
def expect (t : Token) : Read Unit := do
  if !(← skipIf t) then throw ()

/-- Whether the next token is one of these. -/
def nextIsIn (ts : List Token) : Read Bool := do
  return (← peek).any ts.contains

/-- The number of a new node. -/
def newId : Read Nat := do
  let s ← get
  set { s with count := s.count + 1 }
  return s.count

/-- The node that an omitted one stands for. -/
def omitted : Read Node := return .scalar (← newId) .null ""

/-- The tag in full. The tag `!` asks for what the node shows. -/
def fullTag (tag : Option String × String) : Read (Option String) := do
  match tag with
  | (none, "!") => return none
  | (none, suffix) => return some suffix
  | (some handle, suffix) =>
    match (← get).handles.lookup handle with
    | some meaning => return some (meaning ++ suffix)
    | none => throw ()

/-- What stands before a node: its anchor, its tag, and whether there is any
of them. -/
structure Properties where
  anchor? : Option String
  tag? : Option (Option String × String)

/-- Reads an anchor and a tag in either order. -/
def properties : Read Properties := do
  let anchor : Read (Option String) := do
    match ← peek with
    | some (.anchor name) => skip; return some name
    | _ => return none
  let tag : Read (Option (Option String × String)) := do
    match ← peek with
    | some (.tag handle? suffix) => skip; return some (handle?, suffix)
    | _ => return none
  match ← anchor with
  | some name => return ⟨some name, ← tag⟩
  | none =>
    let t ← tag
    match t with
    | some _ => return ⟨← anchor, t⟩
    | none => return ⟨none, none⟩

/-- Takes an anchor for the node that is about to be read. -/
def takeAnchor (anchor? : Option String) : Read Unit := do
  match anchor? with
  | none => return
  | some anchor =>
    let s ← get
    if s.taken.contains anchor then throw ()
    set { s with taken := anchor :: s.taken }

/-- Remembers a finished node that has an anchor. -/
def remember (anchor? : Option String) (node : Node) : Read Node := do
  match anchor? with
  | none => return node
  | some anchor =>
    modify fun s => { s with anchored := (anchor, node) :: s.anchored }
    return node

/-- The kind of a node: from its tag, or what it shows. -/
def kindOf (tag? : Option String) (shown : Kind) : Kind :=
  tag?.elim shown Kind.ofTag

/-- An omitted node is allowed where an anchor or a tag shows it. -/
def orOmitted (id : Nat) (p : Properties) (tag? : Option String) :
    Read Node :=
  if p.anchor?.isSome || p.tag?.isSome then
    pure (.scalar id (kindOf tag? .null) "")
  else throw ()

mutual

/-- Reads a node. `inBlock` allows block collections, and `indentless` a
sequence whose items start at the column of the key before them. -/
def node (inBlock indentless : Bool) : Nat → Read Node
  | 0 => throw ()
  | fuel + 1 => do
    match ← peek with
    | some (.alias anchor) =>
      skip
      if (← get).taken.contains anchor then return .alias anchor else throw ()
    | _ =>
      let p ← properties
      takeAnchor p.anchor?
      let tag? ← match p.tag? with
        | none => pure none
        | some t => fullTag t
      let id ← newId
      let sequence (items : List Node) : Node :=
        .sequence id (kindOf tag? .sequence) items
      let mapping (entries : List (Node × Node)) : Node :=
        .mapping id (kindOf tag? .mapping) entries
      let node : Node ← match ← peek with
        | some .entry =>
          if indentless then sequence <$> indentlessItems fuel
          else orOmitted id p tag?
        | some (.scalar text isPlain) =>
          skip
          let asShown :=
            (isPlain && p.tag?.isNone) || p.tag? = some (none, "!")
          let shown := if asShown then .ofChars text.toList else .text
          pure (.scalar id (kindOf tag? shown) text)
        | some .flowSequence =>
          skip
          sequence <$> flowItems true fuel
        | some .flowMapping =>
          skip
          mapping <$> flowEntries true fuel
        | some .blockSequence =>
          if inBlock then
            skip
            sequence <$> blockItems fuel
          else orOmitted id p tag?
        | some .blockMapping =>
          if inBlock then
            skip
            mapping <$> blockEntries fuel
          else orOmitted id p tag?
        | _ => orOmitted id p tag?
      remember p.anchor? node

/-- A node, or an omitted one if the next token can not start one. -/
def nodeUnless (stops : List Token) (inBlock indentless : Bool) :
    Nat → Read Node
  | 0 => throw ()
  | fuel + 1 => do
    if ← nextIsIn stops then omitted
    else node inBlock indentless fuel

/-- The items of a block sequence, up to and including its end. -/
def blockItems : Nat → Read (List Node)
  | 0 => throw ()
  | fuel + 1 => do
    if ← skipIf .entry then
      let item ← nodeUnless [.entry, .blockEnd] true false fuel
      return item :: (← blockItems fuel)
    else
      expect .blockEnd
      return []

/-- The items of a sequence that is not indented. -/
def indentlessItems : Nat → Read (List Node)
  | 0 => throw ()
  | fuel + 1 => do
    if ← skipIf .entry then
      let item ← nodeUnless [.entry, .key, .value, .blockEnd] true false fuel
      return item :: (← indentlessItems fuel)
    else return []

/-- The entries of a block mapping, up to and including its end. -/
def blockEntries : Nat → Read (List (Node × Node))
  | 0 => throw ()
  | fuel + 1 => do
    let stops : List Token := [.key, .value, .blockEnd]
    if ← skipIf .key then
      let key ← nodeUnless stops true true fuel
      let value ←
        if ← skipIf .value then nodeUnless stops true true fuel
        else omitted
      return (key, value) :: (← blockEntries fuel)
    else
      expect .blockEnd
      return []

/-- The items of a flow sequence, up to and including its end. An item with
a colon is a mapping of one entry. -/
def flowItems (isFirst : Bool) : Nat → Read (List Node)
  | 0 => throw ()
  | fuel + 1 => do
    if ← skipIf .flowSequenceEnd then return []
    if !isFirst then expect .comma
    if ← skipIf .key then
      let id ← newId
      let entry ← flowEntry [.value, .comma, .flowSequenceEnd]
        [.comma, .flowSequenceEnd] fuel
      return .mapping id .mapping [entry] :: (← flowItems false fuel)
    else if ← skipIf .flowSequenceEnd then return []
    else
      let item ← node false false fuel
      return item :: (← flowItems false fuel)

/-- The entries of a flow mapping, up to and including its end. -/
def flowEntries (isFirst : Bool) : Nat → Read (List (Node × Node))
  | 0 => throw ()
  | fuel + 1 => do
    if ← skipIf .flowMappingEnd then return []
    if !isFirst then expect .comma
    if ← skipIf .key then
      let entry ← flowEntry [.value, .comma, .flowMappingEnd]
        [.comma, .flowMappingEnd] fuel
      return entry :: (← flowEntries false fuel)
    else if ← skipIf .flowMappingEnd then return []
    else
      let key ← node false false fuel
      return (key, ← omitted) :: (← flowEntries false fuel)

/-- A key and its value in a flow collection, each of them omitted if one of
the given tokens follows. -/
def flowEntry (keyStops valueStops : List Token) : Nat → Read (Node × Node)
  | 0 => throw ()
  | fuel + 1 => do
    let key ← nodeUnless keyStops false false fuel
    if ← skipIf .value then
      return (key, ← nodeUnless valueStops false false fuel)
    else return (key, ← omitted)

end

/-- The handles that directives introduce, none of them twice. At most one
directive gives the version of YAML, the main number of which is one. -/
def handlesOf? (ds : List Directive) : Option Handles :=
  let versions : List Nat := ds.filterMap fun
    | .version main => some main
    | _ => none
  let handles : Handles := ds.filterMap fun
    | .handle name meaning => some (name, meaning)
    | _ => none
  let names : List String := handles.map (·.1)
  if (versions = [] || versions = [1]) && names.Nodup then some handles
  else none

/-- Takes the directives before a document away. -/
def directives : Read (List Directive) := do
  let s ← get
  let directive? : Token → Option Directive
    | .directive d => some d
    | _ => none
  let isDirective (t : Token) : Bool := (directive? t).isSome
  set { s with tokens := s.tokens.dropWhile isDirective }
  return (s.tokens.takeWhile isDirective).filterMap directive?

/-- Takes away what stands before a document; whether there is one. -/
def documentStart : Read Bool := do
  modify fun s => { s with tokens := s.tokens.dropWhile (· = .documentEnd) }
  if (← peek) = some .streamEnd then return false
  match handlesOf? (← directives) with
  | none => throw ()
  | some handles =>
    expect .documentStart
    modify fun s => { s with handles := handles ++ usualHandles }
    return true

/-- No other document may follow. -/
def documentEnd : Read Unit := do
  let _ ← skipIf .documentEnd
  if ← documentStart then throw ()

/-- Whether a document starts with a mark, or the text is empty. -/
def startsMarked : Read Bool := do
  match ← peek with
  | some (.directive _) | some .documentStart | some .streamEnd => return true
  | _ => return false

/-- Whether a document has no node. -/
def isBlank : Read Bool := do
  match ← peek with
  | some .documentEnd => return true
  | _ => startsMarked

/-- Reads the one document of a text; none if the text is empty. -/
def document (fuel : Nat) : Read (Option Node) := do
  if ← startsMarked then
    if ← documentStart then
      let node ← if ← isBlank then omitted else node true false fuel
      documentEnd
      return some node
    else return none
  else
    let node ← node true false fuel
    documentEnd
    return some node

/-- Why tokens make up no document. -/
inductive Defect where
  | malformed
  /-- No character has the number that is asked for. -/
  | noCharacter (number : Nat)
  /-- A collection lies inside too many others. -/
  | tooDeep
deriving DecidableEq, Repr

/-- How many collections may lie inside each other. A reader that calls itself
for the nodes in a node has no more calls left then. -/
def mostNested : Nat := 490

/-- The document that tokens make up; none for an empty text. -/
def ofTokens (tokens : List Token) : Except Defect (Option Nodes) :=
  let fuel := 4 * tokens.length + 4
  let tokens := Token.cutDeep mostNested 0 tokens
  match (document fuel).run ⟨tokens, usualHandles, [], [], 0⟩ with
  | (.ok root?, s) =>
    .ok (root?.map fun root => ⟨root, s.anchored, s.count⟩)
  | (.error _, s) =>
    match s.tokens.head? with
    | some (.noCharacter n) => .error (.noCharacter n)
    | some .tooDeep => .error .tooDeep
    | _ => .error .malformed

end Node

end LogQuery.Yaml
