/-
The order in which a set shows its members.

A set keeps its members in a row of slots, of which there are enough to leave
more than half of them free. A number belongs in the slot that its remainder
names, and goes to another one if that is taken. What is no number has no
slot of its own, and a set that holds any of it keeps the order of the text.
-/
import LogQuery.Yaml.Value

namespace LogQuery.Yaml.Slots

/-- The prime that remainders are taken by. -/
def modulus : Nat := Nat.pow 2 61 - 1

/-- What an infinite number has instead of a remainder. -/
def infinite : Int := 314159

/-- A remainder as an unsigned word. Minus one is no remainder of anything
and counts as minus two. -/
def word (r : Int) : Nat :=
  ((if r = -1 then -2 else r) % (Nat.pow 2 64 : Nat)).toNat

/-- The remainder of a number. Two to the power of 61 leaves the remainder
one, so that multiplying by a power of two stands for dividing by another. -/
def remainder? (v : Value) : Option Nat :=
  match v with
  | .float (.infinite negative) =>
    some (word (if negative then -infinite else infinite))
  | _ =>
    v.ratio?.map fun (up, down) =>
      let halves := Nat.log2 down % 61
      let r : Int := (up.natAbs * Nat.pow 2 (61 - halves) % modulus : Nat)
      word (if up < 0 then -r else r)

/-- The number of slots for `n` members. -/
def count (n : Nat) : Nat :=
  if n < 5 then 8 else Nat.pow 2 (Nat.log2 (2 * n) + 1)

/-- How many slots are tried in a row, as far as the row goes on. -/
def tried : Nat := 10

/-- The first free slot among those that are tried from `slot` on; what is
left of the remainder, `rest`, decides where to go on. -/
def free? (taken : List Nat) (count : Nat) : Nat → Nat → Nat → Option Nat
  | 0, _, _ => none
  | fuel + 1, slot, rest =>
    let near := if slot + tried ≤ count then tried else 1
    match ((List.range near).map (slot + ·)).find? (!taken.contains ·) with
    | some s => some s
    | none =>
      let rest := rest / 32
      free? taken count fuel ((5 * slot + 1 + rest) % count) rest

/-- Members by slot, with another one. -/
def put (count : Nat) (placed : List (Nat × Value)) (r : Nat) (v : Value) :
    List (Nat × Value) :=
  match free? (placed.map (·.1)) count (count + 14) (r % count) r with
  | some slot => (slot, v) :: placed
  | none => placed

/-- The members of a set in the order in which they are shown. -/
def ordered (members : List Value) : List Value :=
  match members.mapM remainder? with
  | none => members
  | some rs =>
    let n := count members.length
    let placed := (rs.zip members).foldl (fun p x => put n p x.1 x.2) []
    (List.range n).filterMap fun slot => placed.lookup slot

end LogQuery.Yaml.Slots
