/-
The brackets that are open at a point of the query.

Each open bracket is a frame that says how the text inside it is read. The
outermost frame, the base, is not opened by any bracket and can not be
closed, so there is always a current frame, however unbalanced the query is.
Only the frames above the base are stored.
-/
import LogQuery.Fragment

namespace LogQuery

/-- How the text between two brackets is read. -/
inductive Context where
  /-- Filter clauses and pipeline stages. -/
  | topLevel
  /-- The arguments of a function call. -/
  | functionArgs
  /-- The body of a `match` or `case`. -/
  | matchBody
deriving DecidableEq, Repr

/-- The name under which a context is listed. -/
def Context.name : Context → String
  | topLevel => "top_level"
  | functionArgs => "function_args"
  | matchBody => "match_body"

/-- An open bracket: how the text inside is read, where the bracket stands,
the function being called and the text that closes it. -/
structure Frame where
  context : Context
  openedAt : Span
  functionName? : Option String
  closer? : Option String
deriving DecidableEq, Repr

/-- The outermost frame of every stack. -/
def Frame.base : Frame := ⟨.topLevel, ⟨0, 0⟩, none, none⟩

/-- The frames above the base, innermost first. -/
structure Stack where
  frames : List Frame
deriving DecidableEq, Repr

namespace Stack

/-- No open bracket. -/
def empty : Stack := ⟨[]⟩

/-- All frames, outermost first; the base is the first one. -/
def toList (s : Stack) : List Frame := .base :: s.frames.reverse

/-- How many brackets are open. -/
def depth (s : Stack) : Nat := s.frames.length

/-- How many frames there are with the base. -/
def size (s : Stack) : Nat := s.depth + 1

/-- The innermost frame. -/
def current (s : Stack) : Frame := s.frames.head?.getD .base

/-- Opens a frame inside the current one. -/
def push (s : Stack) (f : Frame) : Stack := ⟨f :: s.frames⟩

/-- Takes the innermost frame off, unless it is the base. -/
def pop (s : Stack) : Option Frame × Stack :=
  match s.frames with
  | [] => (none, s)
  | f :: fs => (some f, ⟨fs⟩)

/-- Closes the innermost frame that `closer` closes, together with the
frames inside it, which were left open. If there is none, nothing happens. -/
def close (s : Stack) (closer : String) : Option Frame × Stack :=
  match s.frames.dropWhile (·.closer? ≠ some closer) with
  | [] => (none, s)
  | f :: fs => (some f, ⟨fs⟩)

end Stack

end LogQuery
