/-
Giving each fragment its category.

The fragments are read once from left to right. A category depends on the
fragment, on its neighbours that are no layout, and on the current frame.
The frame tells a filter, `status=200`, from a named argument,
`count(by=1)`; a function name counts as one only right before its opening
parenthesis. Brackets open and close frames after they have been read
themselves.
-/
import LogQuery.Fragment.Scan
import LogQuery.Token
import LogQuery.Vocabulary

namespace LogQuery

open Text

namespace Vocabulary

/-- The fragment is an operator, written with symbols or as a word. -/
def readsOperator (v : Vocabulary) (f : Fragment) : Bool :=
  (f.kind = .punct || f.kind = .word) && v.isOperator f.text

/-- The fragment is an operator that compares a field with a value. -/
def readsComparison (v : Vocabulary) (f : Fragment) : Bool :=
  (f.kind = .punct || f.kind = .word) && v.isComparison f.text

/-- The fragment is a function name. -/
def readsFunction (v : Vocabulary) (f : Fragment) : Bool :=
  f.kind = .word && v.isFunction f.text

end Vocabulary

-- ============================================================== categories

/-- Kinds of fragments that can be compared with a field. -/
def Fragment.Kind.isOperand : Fragment.Kind → Bool
  | .number | .quotedString | .word => true
  | _ => false

/-- The category of `f` between its neighbours, inside `frame`. The first
rule that applies decides. -/
def categorize (v : Vocabulary) (frame : Frame)
    (previous? next? : Option Fragment) (f : Fragment) : Category :=
  if f.kind = .comment then .comment
  else if f.kind = .regexLiteral then .regex
  else if v.readsFunction f && next?.any (·.isPunct "(") then .function
  else if v.readsOperator f then .operator
  else if frame.context = .matchBody then .plain
  else if f.kind = .word && next?.any v.readsComparison
      && frame.context = .topLevel then .filterKey
  else if f.kind = .word && next?.any v.readsComparison
      && next?.any (·.isPunct "=") then .argKey
  else if f.kind.isOperand && previous?.any v.readsComparison then .value
  else .plain

-- ================================================================ brackets

/-- Words that open a body of conditions when a brace follows. -/
def opensMatchBody (word : String) : Bool :=
  ["match", "case"].contains (lower word)

/-- The frame of an opening parenthesis: a call if a function name stands
before it, else more of the current frame. -/
def parenFrame (v : Vocabulary) (current : Frame) (previous? : Option Fragment)
    (f : Fragment) : Frame :=
  match previous?.filter v.readsFunction with
  | some g => ⟨.functionArgs, f.span, some g.text, some ")"⟩
  | none => ⟨current.context, f.span, current.functionName?, some ")"⟩

/-- The frame of an opening brace: a body of conditions, or a query of its
own. -/
def braceFrame (previous? : Option Fragment) (f : Fragment) : Frame :=
  let context :=
    if (previous?.bind Fragment.word?).any opensMatchBody then .matchBody
    else .topLevel
  ⟨context, f.span, none, some "\x7d"⟩

/-- The stack after `f` has been read. -/
def Stack.read (s : Stack) (v : Vocabulary) (previous? : Option Fragment)
    (f : Fragment) : Stack :=
  if f.isPunct "(" then s.push (parenFrame v s.current previous? f)
  else if f.isPunct "\x7b" then s.push (braceFrame previous? f)
  else if f.isPunct ")" || f.isPunct "\x7d" then (s.close f.text).2
  else s

-- ================================================================= reading

/-- A fragment with its number among all fragments of the query. -/
structure Numbered where
  index : Nat
  fragment : Fragment
deriving DecidableEq, Repr

/-- The fragments that are no layout, numbered from `start` on with the
layout counted. -/
def significantFrom (start : Nat) : List Fragment → List Numbered
  | [] => []
  | f :: fs =>
    if f.kind.isLayout then significantFrom (start + 1) fs
    else ⟨start, f⟩ :: significantFrom (start + 1) fs

/-- The token that `n` becomes inside `frame`. -/
def Numbered.token (n : Numbered) (category : Category) (frame : Frame) :
    Token :=
  ⟨n.fragment.span, category, n.index, n.fragment.text, frame.context,
    frame.functionName?⟩

/-- Reads fragments that follow `previous?`, starting with the brackets of
`s` open. Gives the tokens and the brackets left open. -/
def readFrom (v : Vocabulary) (previous? : Option Fragment) (s : Stack) :
    List Numbered → List Token × Stack
  | [] => ([], s)
  | n :: ns =>
    let next? := ns.head?.map (·.fragment)
    let category := categorize v s.current previous? next? n.fragment
    let after := readFrom v (some n.fragment)
      (s.read v previous? n.fragment) ns
    (n.token category s.current :: after.1, after.2)

/-- The tokens of the fragments, with the brackets of `s` open at first, and
the brackets that are open at the end. -/
def classify (v : Vocabulary) (fragments : List Fragment) (s : Stack) :
    List Token × Stack :=
  readFrom v none s (significantFrom 0 fragments)

/-- The tokens of a query, with the brackets of `s` open at first, and the
brackets that are open at the end. -/
def classifyQuery (v : Vocabulary) (query : String) (s : Stack) :
    List Token × Stack :=
  classify v (scan query) s

/-- The tokens of a query on its own. -/
def tokens (v : Vocabulary) (query : String) : List Token :=
  (classifyQuery v query .empty).1

end LogQuery
