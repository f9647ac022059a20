/-
Numbers in YAML.

Underscores between digits mean nothing. A whole number may have the base
two, eight or sixteen, and of both sorts of numbers the digits may be grouped
by colons, each group worth sixty of the next. A tag can ask for a number
where the text spells none.
-/
import LogQuery.Number.Arithmetic
import LogQuery.Number.Whole
import LogQuery.Text.Lowercase
import LogQuery.Text.Quoted

namespace LogQuery.Yaml

open Text

/-- Why a text is no number of the sort that is asked for. -/
inductive NumberFault where
  /-- There is no text. -/
  | empty
  | whole (base : Nat) (text : String) (e : Whole.Fault)
  | noFloat (text : String)
  /-- There are too many groups. -/
  | tooLarge
deriving DecidableEq, Repr

/-- The report of a text that is no number. -/
def NumberFault.message : NumberFault → String
  | empty => "string index out of range"
  | whole base text e => e.message base text
  | noFloat text => "could not convert string to float: " ++ quoted text
  | tooLarge => "int too large to convert to float"

-- =========================================================== whole numbers

/-- A whole number in a base. -/
def wholeNumber (base : Nat) (cs : List Char) : Except NumberFault Int :=
  (Whole.ofChars base cs).mapError (.whole base (String.ofList cs))

/-- The whole number that a text without underscores and sign spells. -/
def unsignedInt (cs : List Char) : Except NumberFault Int :=
  match cs with
  | [] => .error .empty
  | ['0'] => .ok 0
  | '0' :: 'b' :: ds => wholeNumber 2 ds
  | '0' :: 'x' :: ds => wholeNumber 16 ds
  | '0' :: _ => wholeNumber 8 cs
  | _ => do
    let groups ← (cs.splitOn ':').mapM (wholeNumber 10)
    return groups.foldl (fun n group => 60 * n + group) 0

/-- The whole number that a text spells. -/
def intOfChars (cs : List Char) : Except NumberFault Int := do
  let cs := cs.filter (· ≠ '_')
  let n ← unsignedInt (unsigned cs)
  return if cs.head? = some '-' then -n else n

-- ==================================================== floating-point numbers

/-- A number with a point. -/
def floatNumber (cs : List Char) : Except NumberFault Binary64 :=
  match Binary64.ofText? (String.ofList cs) with
  | some x => .ok x
  | none => .error (.noFloat (String.ofList cs))

/-- The sum of groups, the last one first; the first of them is worth `worth`
of the last. -/
def sumGroups (worth : Nat) (sum : Binary64) :
    List Binary64 → Except NumberFault Binary64
  | [] => .ok sum
  | group :: groups =>
    match Binary64.ofNat? worth with
    | none => .error .tooLarge
    | some w => sumGroups (60 * worth) (sum.add (group.mul w)) groups

/-- The number that a text in lower case without underscores and sign
spells. -/
def unsignedFloat (cs : List Char) : Except NumberFault Binary64 :=
  if cs = ".inf".toList then .ok (.infinite false)
  else if cs = ".nan".toList then .ok .notANumber
  else if cs.contains ':' then do
    let groups ← (cs.splitOn ':').mapM floatNumber
    sumGroups 1 (.finite false 0 0) groups.reverse
  else floatNumber cs

/-- The text of a number without what means nothing. -/
def plainFloat (cs : List Char) : List Char :=
  (lower (String.ofList (cs.filter (· ≠ '_')))).toList

/-- The number with a point that a text spells. -/
def floatOfChars (cs : List Char) : Except NumberFault Binary64 := do
  let cs := plainFloat cs
  if cs.isEmpty then .error .empty
  let x ← unsignedFloat (unsigned cs)
  return if cs.head? = some '-' then x.negate else x

end LogQuery.Yaml
