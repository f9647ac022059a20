/-
The tokens of a YAML text.

Block structure, which the text shows by indentation, is marked by tokens of
its own, so that nodes can be read without looking at columns.
-/

namespace LogQuery.Yaml

/-- What a directive says about the document after it. -/
inductive Directive where
  /-- The main number of the version of YAML. -/
  | version (main : Nat)
  /-- What a handle of tags stands for. -/
  | handle (name meaning : String)
  | other
deriving DecidableEq, Repr

/-- A token. `entry` starts an item of a block sequence, `comma` ends an item
of a flow collection. Nothing is read behind a scalar that asks for a
character by a number that no character has, nor behind a collection that
lies too deep. -/
inductive Token where
  | directive (d : Directive)
  | documentStart
  | documentEnd
  | streamEnd
  | blockSequence
  | blockMapping
  | blockEnd
  | flowSequence
  | flowSequenceEnd
  | flowMapping
  | flowMappingEnd
  | entry
  | comma
  | key
  | value
  | alias (name : String)
  | anchor (name : String)
  | tag (handle? : Option String) (suffix : String)
  | scalar (text : String) (isPlain : Bool)
  | noCharacter (number : Nat)
  | tooDeep
deriving DecidableEq, Repr

namespace Token

/-- Whether a token opens a collection. -/
def isOpening : Token → Bool
  | blockSequence | blockMapping | flowSequence | flowMapping => true
  | _ => false

/-- Whether a token closes a collection. -/
def isClosing : Token → Bool
  | blockEnd | flowSequenceEnd | flowMappingEnd => true
  | _ => false

/-- The tokens up to the first collection that lies inside `most` others;
`depth` of them are open at the start. -/
def cutDeep (most : Nat) : Nat → List Token → List Token
  | _, [] => []
  | depth, t :: ts =>
    if t.isOpening then
      if most ≤ depth then [.tooDeep] else t :: cutDeep most (depth + 1) ts
    else if t.isClosing then t :: cutDeep most (depth - 1) ts
    else t :: cutDeep most depth ts

end Token

end LogQuery.Yaml
