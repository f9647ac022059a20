/-
The document of a written list.

The tokens of the list make up a mapping with one key and a sequence of
texts, and the values built from these nodes are the texts of the list, so
that every list of texts is read back as it was written
(`ofText_keyedList`).
-/
import Mathlib.Control.Monad.Basic
import LogQuery.Proofs.Yaml.ScanList
import LogQuery.Yaml.Build

namespace LogQuery.Yaml

open Writer

namespace Node

-- =================================================================== nodes

/-- The nodes of the items of a list, numbered from `id` on. -/
def itemNodes (id : Nat) : List String → List Node
  | [] => []
  | name :: names => .scalar id .text name :: itemNodes (id + 1) names

/-- The sequence of a list, behind its mapping and its key. -/
def listSequence (names : List String) : Node :=
  .sequence 2 .sequence (itemNodes 3 names)

/-- The one entry of the mapping. -/
def listEntries (names : List String) : NodeEntries :=
  [(.scalar 1 .text "functions", listSequence names)]

/-- The nodes of a list. -/
def listNodes (names : List String) : Nodes where
  root := .mapping 0 .mapping (listEntries names)
  anchored := []
  count := names.length + 3

/-- Reading goes on behind what was read. -/
theorem run_bind {α β : Type} {x : Read α} {f : α → Read β} {s s' : Source}
    {a : α} (h : x.run s = (.ok a, s')) :
    (x >>= f).run s = (f a).run s' := by
  change ExceptT.bindCont f (x.run s).1 (x.run s).2 = _
  rw [h]
  rfl

/-- What a scalar shows if it is an item of a written list: in the plain
style only what shows to be text is written. -/
theorem kind_item (name : String) :
    (if style name.toList = .plain then Kind.ofChars name.toList else .text)
      = .text := by
  split
  · next hstyle =>
    cases hname : name.toList with
    | nil => rw [hname] at hstyle; cases hstyle
    | cons c cs =>
      rw [hname] at hstyle
      exact (isPlain_of_style hstyle '\n').2.1
  · rfl

/-- One item is read, and then the others. -/
theorem run_indentlessItems_item (name : String) (tokens : List Token)
    (fuel : Nat) (h : Handles) (count : Nat) :
    (indentlessItems (fuel + 3)).run
        ⟨TokenScan.itemTokens name ++ tokens, h, [], [], count⟩
      = (do return .scalar count .text name
              :: (← indentlessItems (fuel + 2)) : Read (List Node)).run
          ⟨tokens, h, [], [], count + 1⟩ := by
  rw [← kind_item name, TokenScan.itemTokens]
  by_cases hstyle : style name.toList = .plain
  · simp only [hstyle, decide_true, if_true]
    rfl
  · simp only [hstyle, decide_false, if_false]
    rfl

/-- **The items are read**: with three steps of fuel more than there are
items. -/
theorem run_indentlessItems (names : List String) :
    -- each item takes a number and a step of fuel, so both are general
    ∀ (fuel : Nat) (h : Handles) (count : Nat),
      (indentlessItems (names.length + fuel + 3)).run
          ⟨names.flatMap TokenScan.itemTokens ++ [.blockEnd, .streamEnd],
            h, [], [], count⟩
        = (.ok (itemNodes count names),
          ⟨[.blockEnd, .streamEnd], h, [], [], count + names.length⟩) := by
  induction names with
  | nil => intros; rfl
  | cons name names ih =>
    intro fuel h count
    have hmore := ih fuel h (count + 1)
    rw [List.flatMap_cons, List.append_assoc, List.length_cons,
      Nat.add_right_comm _ 1 fuel, run_indentlessItems_item,
      run_bind hmore, Nat.add_right_comm count 1, Nat.add_assoc count]
    rfl

section

-- Tokens in front of the items are read by computation, so each step below is
-- stated from the place at which the items are read.
variable {fuel : Nat} {tokens : List Token} {h : Handles}
  {items : List Node} {count : Nat}

/-- The sequence under the key is read. -/
theorem run_sequence {s : Source}
    (hitems : (indentlessItems fuel).run
      ⟨.entry :: tokens, h, [], [], count + 1⟩ = (.ok items, s)) :
    (node true true (fuel + 1)).run ⟨.entry :: tokens, h, [], [], count⟩
      = (.ok (.sequence count .sequence items), s) := by
  change ((Node.sequence count .sequence <$> indentlessItems fuel)
    >>= remember none).run ⟨.entry :: tokens, h, [], [], count + 1⟩ = _
  rw [map_eq_pure_bind, bind_assoc, run_bind hitems]
  rfl

variable (hitems : (indentlessItems fuel).run ⟨.entry :: tokens, h, [], [], 3⟩
  = (.ok items, ⟨[.blockEnd, .streamEnd], h, [], [], count⟩))
include hitems

/-- The key and its sequence are read. -/
theorem run_blockEntries :
    (blockEntries (fuel + 3)).run
        ⟨.key :: .scalar "functions" true :: .value :: .entry :: tokens,
          h, [], [], 1⟩
      = (.ok [(.scalar 1 .text "functions", .sequence 2 .sequence items)],
        ⟨[.streamEnd], h, [], [], count⟩) := by
  change (do
    let value ← node true true (fuel + 1)
    return (.scalar 1 .text "functions", value)
      :: (← blockEntries (fuel + 2)) : Read (List (Node × Node))).run
    ⟨.entry :: tokens, h, [], [], 2⟩ = _
  rw [run_bind (run_sequence hitems)]
  rfl

/-- The mapping is read. -/
theorem run_mapping :
    (node true false (fuel + 4)).run
        ⟨TokenScan.headTokens ++ .entry :: tokens, h, [], [], 0⟩
      = (.ok (.mapping 0 .mapping [(.scalar 1 .text "functions",
          .sequence 2 .sequence items)]),
        ⟨[.streamEnd], h, [], [], count⟩) := by
  change ((Node.mapping 0 .mapping <$> blockEntries (fuel + 3))
    >>= remember none).run
    ⟨.key :: .scalar "functions" true :: .value :: .entry :: tokens,
      h, [], [], 1⟩ = _
  rw [map_eq_pure_bind, bind_assoc, run_bind (run_blockEntries hitems)]
  rfl

/-- The document is read, and no other one follows. -/
theorem run_document :
    (document (fuel + 4)).run
        ⟨TokenScan.headTokens ++ .entry :: tokens, h, [], [], 0⟩
      = (.ok (some (.mapping 0 .mapping [(.scalar 1 .text "functions",
          .sequence 2 .sequence items)])),
        ⟨[.streamEnd], h, [], [], count⟩) := by
  change (do
    let node ← node true false (fuel + 4)
    documentEnd
    return some node : Read (Option Node)).run
    ⟨TokenScan.headTokens ++ .entry :: tokens, h, [], [], 0⟩ = _
  rw [run_bind (run_mapping hitems)]
  rfl

end

/-- Every item is two tokens. -/
theorem length_itemTokens (names : List String) :
    (names.flatMap TokenScan.itemTokens).length = 2 * names.length := by
  induction names with
  | nil => rfl
  | cons name names ih =>
    rw [List.flatMap_cons, List.length_append, ih, List.length_cons,
      TokenScan.itemTokens, List.length_cons, List.length_singleton]
    omega

/-- Tokens that open no collection lie nowhere too deep. -/
theorem cutDeep_of_flat {most : Nat} {tokens : List Token}
    (h : ∀ t ∈ tokens, t.isOpening = false) :
    ∀ depth, Token.cutDeep most depth tokens = tokens := by
  induction tokens with
  | nil => intro depth; rfl
  | cons t tokens ih =>
    intro depth
    have ht := h t List.mem_cons_self
    have ih := ih fun t ht => h t (List.mem_cons_of_mem _ ht)
    rw [Token.cutDeep, ht, ih (depth - 1), ih depth]
    simp

/-- A written list is one collection inside another. -/
theorem cutDeep_keyedList (names : List String) :
    Token.cutDeep mostNested 0 (TokenScan.headTokens
        ++ names.flatMap TokenScan.itemTokens ++ [.blockEnd, .streamEnd])
      = TokenScan.headTokens ++ names.flatMap TokenScan.itemTokens
        ++ [.blockEnd, .streamEnd] := by
  have hflat : ∀ t ∈ TokenScan.headTokens.tail
      ++ names.flatMap TokenScan.itemTokens ++ [Token.blockEnd, .streamEnd],
      t.isOpening = false := by
    intro t ht
    simp only [TokenScan.headTokens, TokenScan.itemTokens, List.tail_cons,
      List.mem_append, List.mem_flatMap, List.mem_cons, List.not_mem_nil,
      or_false] at ht
    rcases ht with ((rfl | rfl | rfl) | ⟨name, -, rfl | rfl⟩) | rfl | rfl
      <;> rfl
  exact congrArg (List.cons Token.blockMapping) (cutDeep_of_flat hflat 1)

/-- **The nodes of a written list.** -/
theorem ofTokens_keyedList {names : List String} (hnames : names ≠ []) :
    ofTokens (TokenScan.headTokens ++ names.flatMap TokenScan.itemTokens
        ++ [.blockEnd, .streamEnd])
      = .ok (some (listNodes names)) := by
  have hlength := length_itemTokens names
  obtain ⟨name, others, rfl⟩ := List.exists_cons_of_ne_nil hnames
  set names := name :: others
  set tokens := TokenScan.headTokens ++ names.flatMap TokenScan.itemTokens
    ++ [Token.blockEnd, .streamEnd] with htokens
  -- there is fuel for three collections and a step for each item
  obtain ⟨fuel, hfuel⟩ : ∃ fuel,
      4 * tokens.length + 4 = names.length + fuel + 3 + 4 := by
    refine ⟨4 * tokens.length - names.length - 3, ?_⟩
    simp only [htokens, List.length_append, hlength, List.length_cons]
    omega
  have hdocument : (document (4 * tokens.length + 4)).run
      ⟨tokens, usualHandles, [], [], 0⟩
      = (.ok (some (listNodes names).root),
        ⟨[.streamEnd], usualHandles, [], [], names.length + 3⟩) := by
    rw [hfuel, htokens, List.append_assoc, Nat.add_comm names.length 3]
    exact run_document (run_indentlessItems names fuel usualHandles 3)
  unfold ofTokens
  dsimp only
  rw [htokens, cutDeep_keyedList, ← htokens, hdocument]
  rfl

end Node

namespace Nodes

-- ================================================================== values

variable {names : List String}

/-- Building goes on behind what was built. -/
theorem run_bind {α β : Type} {x : Build α} {f : α → Build β}
    {p p' : Progress} {a : α} (h : x.run p = .ok (a, p')) :
    (x >>= f).run p = (f a).run p' := by
  rw [StateT.run_bind, h]
  rfl

/-- The values of texts are texts. -/
theorem mapM_valueOf_itemNodes (texts : List String) : ∀ id,
    (Node.itemNodes id texts).mapM (valueOf (Node.listNodes names))
      = pure (texts.map .text) := by
  induction texts with
  | nil => intro id; rfl
  | cons text texts ih =>
    intro id
    have htext : valueOf (Node.listNodes names) (.scalar id .text text)
        = pure (.text text) := rfl
    rw [Node.itemNodes, List.mapM_cons, htext, pure_bind, ih, pure_bind]
    rfl

/-- The sequence holds the texts. -/
theorem run_collectionOf_sequence (p : Progress) :
    (collectionOf (Node.listNodes names) (Node.listSequence names)).run p
      = .ok (.list (names.map .text), p) := by
  change (Collection.list <$> (Node.itemNodes 3 names).mapM
    (valueOf (Node.listNodes names))).run p = _
  rw [mapM_valueOf_itemNodes]
  rfl

/-- The mapping holds the sequence, which is begun. -/
theorem run_collectionOf_mapping :
    (collectionOf (Node.listNodes names) (Node.listNodes names).root).run
        ⟨[0], [], [], []⟩
      = .ok (.map [(.text "functions", .collection 2)],
        ⟨[2, 0], [], [Node.listSequence names],
          [(0, Node.listEntries names)]⟩) := by
  rfl

/-- One collection is filled, and then the others. -/
theorem run_fill {g : Nodes} {n : Node} {waiting : List Node}
    {p p' : Progress} {c : Collection} (hp : p.waiting = n :: waiting)
    (hcollection : (g.collectionOf n).run { p with waiting }
      = .ok (c, p')) (fuel : Nat) :
    (g.fill (fuel + 1)).run p
      = (g.fill fuel).run
        { p' with filled := (g.idOf n, c) :: p'.filled } := by
  obtain ⟨begun, filled, _, merged⟩ := p
  cases hp
  change (do
    let c ← g.collectionOf n
    modify fun p => { p with filled := (g.idOf n, c) :: p.filled }
    g.fill fuel : Build Unit).run ⟨begun, filled, waiting, merged⟩ = _
  rw [run_bind hcollection]
  rfl

/-- **The values of a list.** -/
theorem document_listNodes (names : List String) :
    (Node.listNodes names).document
      = .ok ⟨.collection 0, [(2, .list (names.map .text)),
          (0, .map [(.text "functions", .collection 2)])]⟩ := by
  set g := Node.listNodes names
  have hroot : (g.valueOf g.root).run ⟨[], [], [], []⟩
      = .ok (.collection 0, ⟨[0], [], [g.root], []⟩) := rfl
  have hfill : (g.fill (g.count + 1)).run ⟨[0], [], [g.root], []⟩
      = .ok ((), ⟨[2, 0], [(2, .list (names.map .text)),
          (0, .map [(.text "functions", .collection 2)])], [],
          [(0, Node.listEntries names)]⟩) := by
    -- the mapping is filled first, and begins the sequence that is next
    rw [run_fill rfl run_collectionOf_mapping]
    change (g.fill (names.length + 3)).run _ = _
    rw [run_fill rfl (run_collectionOf_sequence _)]
    rfl
  unfold document
  dsimp only
  rw [run_bind hroot, run_bind hfill]
  rfl

end Nodes

-- =============================================================== documents

/-- **A written list is read back.** -/
theorem Document.ofText_keyedList (names : List String) :
    Document.ofText (keyedList "functions" names)
      = .ok ⟨.collection 0, [(2, .list (names.map .text)),
          (0, .map [(.text "functions", .collection 2)])]⟩ := by
  by_cases hnames : names = []
  · subst hnames
    decide +kernel
  · unfold Document.ofText
    rw [tokens_keyedList hnames]
    dsimp only
    rw [Node.ofTokens_keyedList hnames]
    exact Nodes.document_listNodes names

end LogQuery.Yaml
