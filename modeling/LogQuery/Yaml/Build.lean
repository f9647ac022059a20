/-
Building the values of a document from its nodes.

A collection is begun empty, so that what it holds can refer to it, and filled
later: collections are filled in the order in which they were begun. Of
several faults the first one counts that is met in this order.
-/
import LogQuery.Text.Base64
import LogQuery.Yaml.Node
import LogQuery.Yaml.Number
import LogQuery.Yaml.Slots

namespace LogQuery.Yaml

open Text

/-- Why a scalar of a known kind has no value. -/
inductive ScalarFault where
  | number (e : NumberFault)
  | timestamp (e : Timestamp.Fault)
  | noTruthValue (text : String)
  | noTimestamp
  /-- A mapping stands where a timestamp has to be spelled. -/
  | timestampOfMapping
deriving DecidableEq, Repr

/-- The report of a scalar without a value. -/
def ScalarFault.message : ScalarFault → String
  | number e => e.message
  | timestamp e => e.message
  | noTruthValue text => quoted text
  | noTimestamp => "'NoneType' object has no attribute 'groupdict'"
  | timestampOfMapping =>
    "expected string or bytes-like object, got 'list'"

/-- Why a text is no document, or a scalar in it has no value. -/
inductive Fault where
  | malformed
  /-- No character has the number that is asked for. -/
  | noCharacter (number : Nat)
  /-- A collection lies inside too many others. -/
  | tooDeep
  | scalar (e : ScalarFault)
deriving DecidableEq, Repr

/-- The entries of a mapping. -/
abbrev NodeEntries := List (Node × Node)

/-- The collections that were begun, those that are filled, the nodes of
those that are still to be filled, and the entries of mappings whose merges
have been carried out. -/
structure Progress where
  begun : List Nat
  filled : List (Nat × Collection)
  waiting : List Node
  merged : List (Nat × NodeEntries)

/-- Building that may fail. -/
abbrev Build := StateT Progress (Except Fault)

namespace Nodes

variable (g : Nodes)

/-- The node that a node stands for. -/
def resolve (n : Node) : Node :=
  match n with
  | .alias anchor => (g.anchored.lookup anchor).getD n
  | _ => n

/-- The kind of a node. -/
def kindOf (n : Node) : Kind :=
  match g.resolve n with
  | .scalar _ kind _ | .sequence _ kind _ | .mapping _ kind _ => kind
  | .alias _ => .unknown

/-- The number of a node. -/
def idOf (n : Node) : Nat :=
  match g.resolve n with
  | .scalar id .. | .sequence id .. | .mapping id .. => id
  | .alias _ => g.count

-- ================================================================= scalars

/-- The text that a node has, or a mapping under the key `=`. -/
def textOf? : Nat → Node → Option String
  | 0, _ => none
  | fuel + 1, n =>
    match g.resolve n with
    | .scalar _ _ s => some s
    | .mapping _ _ entries => do
      let e ← entries.find? fun e => g.kindOf e.1 = .default
      textOf? fuel e.2
    | _ => none

/-- The truth value that a text spells, in any case. -/
def boolOf? (s : String) : Option Bool :=
  let isOneOf (words : List String) := (words.map lower).contains (lower s)
  if isOneOf Kind.trues then some true
  else if isOneOf Kind.falses then some false
  else none

/-- The value of a text of a known kind, at the node `id`. -/
def scalarOf (id : Nat) (kind : Kind) (s : String) : Except Fault Value :=
  match kind with
  | .null => .ok .null
  | .bool =>
    match boolOf? s with
    | some b => .ok (.bool b)
    | none => .error (.scalar (.noTruthValue (lower s)))
  | .int =>
    ((intOfChars s.toList).map .int).mapError fun e => .scalar (.number e)
  | .float =>
    match floatOfChars s.toList with
    | .ok .notANumber =>
      let isShared := unsigned (plainFloat s.toList) = ".nan".toList
      .ok (.notANumber (if isShared then none else some id))
    | .ok x => .ok (.float x)
    | .error e => .error (.scalar (.number e))
  | .binary =>
    let cs := s.toList
    if cs.any fun c => 0x80 ≤ c.toNat then .error .malformed
    else ((Base64.decode? cs).map .bytes).elim (.error .malformed) .ok
  | .timestamp =>
    match Timestamp.ofChars? s.toList with
    | none => .error (.scalar .noTimestamp)
    | some t =>
      match t.fault? with
      | some e => .error (.scalar (.timestamp e))
      | none => .ok (.time t)
  | .text => .ok (.text s)
  | _ => .error .malformed

/-- The value of a node of a kind that has no parts. -/
def scalarValue (n : Node) : Except Fault Value :=
  match g.textOf? g.count n, g.resolve n, g.kindOf n with
  | some _, .mapping .., .timestamp =>
    .error (.scalar .timestampOfMapping)
  | some s, _, kind => scalarOf (g.idOf n) kind s
  | none, _, _ => .error .malformed

-- =================================================================== nodes

/-- The value of a node. A collection is only begun. -/
def valueOf (n : Node) : Build Value := do
  if (g.kindOf n).isCollection then
    let id := g.idOf n
    let p ← get
    if !p.begun.contains id then
      set { p with begun := id :: p.begun, waiting := p.waiting ++ [n] }
    return .collection id
  else g.scalarValue n

-- ================================================================ mappings

/-- The entries of a mapping as they are by now. -/
def entriesOf (n : Node) : Build (Option NodeEntries) := do
  match g.resolve n with
  | .mapping id _ entries =>
    return some (((← get).merged.lookup id).getD entries)
  | _ => return none

/-- Changes the entries of a mapping. -/
def setEntries (n : Node) (entries : NodeEntries) : Build Unit :=
  modify fun p => { p with merged := (g.idOf n, entries) :: p.merged }

/-- The mappings that a merge takes entries from, the one that counts least
first. -/
def mergeSources? (n : Node) : Option (List Node) :=
  let isMapping (m : Node) : Bool :=
    match g.resolve m with
    | .mapping .. => true
    | _ => false
  match g.resolve n with
  | .mapping .. => some [n]
  | .sequence _ _ items =>
    if items.all isMapping then some items.reverse else none
  | _ => none

/-- Replaces the entries of a mapping that are merges by the entries of other
mappings, which go to the front; `taken` are those found so far. -/
def merge : Nat → Node → NodeEntries → Build Unit
  | 0, _, _ => throw .malformed
  | fuel + 1, n, taken => do
    let entries := (← g.entriesOf n).getD []
    match entries.findIdx? fun e => g.kindOf e.1 = .merge with
    | none => g.setEntries n (taken ++ entries)
    | some i =>
      g.setEntries n (entries.eraseIdx i)
      match entries[i]?.bind fun e => g.mergeSources? e.2 with
      | none => throw .malformed
      | some sources =>
        for m in sources.reverse do
          merge fuel m []
        let found ← sources.mapM fun m => return (← g.entriesOf m).getD []
        merge fuel n (taken ++ found.flatten)

/-- A key. The mark `=` is text. -/
def keyOf (n : Node) : Build Value := do
  let key ← match g.kindOf n, g.textOf? g.count n with
    | .default, some s => pure (.text s)
    | _, _ => g.valueOf n
  if !key.isKey then throw .malformed
  return key

/-- The entries of a mapping with different keys: of equal keys the last value
counts, at the place of the first. -/
def mapOf (n : Node) : Build (List (Value × Value)) := do
  match g.resolve n with
  | .mapping .. =>
    g.merge (g.count + 1) n []
    let entries := (← g.entriesOf n).getD []
    entries.foldlM (fun es e => do
      let key ← g.keyOf e.1
      let value ← g.valueOf e.2
      return Value.put key value es) []
  | _ => throw .malformed

-- =================================================================== lists

/-- The nodes in a sequence. -/
def itemsOf (n : Node) : Build (List Node) :=
  match g.resolve n with
  | .sequence _ _ items => return items
  | _ => throw .malformed

/-- The pair that a mapping of one entry is. -/
def pairOf (n : Node) : Build Value := do
  match ← g.entriesOf n with
  | some [e] => return .pair (← g.valueOf e.1) (← g.valueOf e.2)
  | _ => throw .malformed

-- ============================================================= collections

/-- What the collection at a node holds. -/
def collectionOf (n : Node) : Build Collection := do
  match g.kindOf n with
  | .mapping => return .map (← g.mapOf n)
  | .set => return .set (Slots.ordered ((← g.mapOf n).map (·.1)))
  | .orderedMap | .pairs =>
    return .list (← (← g.itemsOf n).mapM g.pairOf)
  | _ => return .list (← (← g.itemsOf n).mapM g.valueOf)

/-- Fills the collections that wait for it. -/
def fill : Nat → Build Unit
  | 0 => return
  | fuel + 1 => do
    let p ← get
    match p.waiting with
    | [] => return
    | n :: waiting =>
      set { p with waiting }
      let c ← g.collectionOf n
      modify fun p => { p with filled := (g.idOf n, c) :: p.filled }
      fill fuel

/-- The document that the nodes make up. -/
def document : Except Fault Document := do
  let build : Build Value := do
    let root ← g.valueOf g.root
    g.fill (g.count + 1)
    return root
  let (root, p) ← build.run ⟨[], [], [], []⟩
  return ⟨root, p.filled⟩

end Nodes

/-- The document in a text; an empty one is null. -/
def Document.ofText (s : String) : Except Fault Document :=
  match Token.ofChars? s.toList with
  | none => .error .malformed
  | some tokens =>
    match Node.ofTokens tokens with
    | .ok none => .ok ⟨.null, []⟩
    | .ok (some g) => g.document
    | .error .malformed => .error .malformed
    | .error (.noCharacter n) => .error (.noCharacter n)
    | .error .tooDeep => .error .tooDeep

end LogQuery.Yaml
