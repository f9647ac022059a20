/-
The values of YAML documents.

A list or a mapping may hold itself, so a document numbers its collections
and a value refers to them by number. Where a collection is shown inside
itself, dots stand for it.
-/
import LogQuery.Number.Arithmetic
import LogQuery.Number.Whole
import LogQuery.Text.Quoted
import LogQuery.Yaml.Timestamp

namespace LogQuery.Yaml

open Text

/-- A value. A number that is none is the same only as itself: it has the
number of the node that spells it, unless that is `.nan`. -/
inductive Value where
  | null
  | bool (b : Bool)
  | int (n : Int)
  | float (x : Binary64)
  | notANumber (node? : Option Nat)
  | time (t : Timestamp)
  | text (s : String)
  | bytes (bs : List UInt8)
  | pair (first second : Value)
  | collection (id : Nat)
deriving DecidableEq, Repr

/-- What a collection holds. -/
inductive Collection where
  | list (items : List Value)
  | map (entries : List (Value × Value))
  | set (members : List Value)
deriving DecidableEq, Repr

/-- The value of a document with its collections. -/
structure Document where
  root : Value
  collections : List (Nat × Collection)
deriving DecidableEq, Repr

namespace Value

-- ================================================================ mappings

/-- The number that a value is, as a ratio. Truth values are the numbers 0
and 1. -/
def ratio? : Value → Option (Int × Nat)
  | bool b => some (if b then 1 else 0, 1)
  | int n => some (n, 1)
  | float x => x.ratio?
  | _ => none

/-- Whether two keys are the same. Numbers are if they are equal. -/
def isSame (v w : Value) : Bool :=
  match v, w, v.ratio?, w.ratio? with
  | _, _, some (a, b), some (c, d) => a * d = c * b
  | time s, time t, _, _ => s.isSame t
  | _, _, none, none => v = w
  | _, _, _, _ => false

/-- Collections are no keys. -/
def isKey : Value → Bool
  | collection _ => false
  | _ => true

/-- Adds an entry, or replaces the value of its key. -/
def put (key value : Value) :
    List (Value × Value) → List (Value × Value)
  | [] => [(key, value)]
  | e :: es =>
    if isSame key e.1 then (e.1, value) :: es else e :: put key value es

/-- The value of a key that is text. -/
def get? (entries : List (Value × Value)) (key : String) : Option Value :=
  (entries.find? fun e => e.1 = .text key).map (·.2)

end Value

namespace Document

/-- The collection that a value refers to. -/
def collection? (d : Document) : Value → Option Collection
  | .collection id => d.collections.lookup id
  | _ => none

/-- The items of a list. -/
def items? (d : Document) (v : Value) : Option (List Value) :=
  match d.collection? v with
  | some (.list items) => some items
  | _ => none

/-- The entries of a mapping. -/
def entries? (d : Document) (v : Value) : Option (List (Value × Value)) :=
  match d.collection? v with
  | some (.map entries) => some entries
  | _ => none

-- ================================================================= showing

/-- The name of a value's type in messages. -/
def typeText (d : Document) (v : Value) : String :=
  match v, d.collection? v with
  | _, some (.list _) => "<class 'list'>"
  | _, some (.map _) => "<class 'dict'>"
  | _, some (.set _) => "<class 'set'>"
  | .bool _, _ => "<class 'bool'>"
  | .int _, _ => "<class 'int'>"
  | .float _, _ | .notANumber _, _ => "<class 'float'>"
  | .time t, _ =>
    if t.time?.isSome then "<class 'datetime.datetime'>"
    else "<class 'datetime.date'>"
  | .text _, _ => "<class 'str'>"
  | .bytes _, _ => "<class 'bytes'>"
  | .pair .., _ => "<class 'tuple'>"
  | .null, _ | .collection _, _ => "<class 'NoneType'>"

/-- Why a value can not be shown. -/
inductive ShowFault where
  /-- A number in it has too many digits. -/
  | tooLong
  /-- Too many collections lie inside each other. -/
  | tooDeep
deriving DecidableEq, Repr

/-- The report of a value that can not be shown. -/
def ShowFault.message : ShowFault → String
  | tooLong => Whole.tooLongText none
  | tooDeep =>
    "maximum recursion depth exceeded while getting the repr of an object"

/-- Parts with commas between marks. -/
def enclosed (left right : String) (parts : List String) : String :=
  left ++ String.intercalate ", " parts ++ right

/-- How a value is shown inside the collections `around`, if it is nested at
most `depth` deep. -/
def shownInside (d : Document) (around : List Nat) :
    Nat → Value → Except ShowFault String
  | 0, _ => .error .tooDeep
  | depth + 1, v =>
    let part (id : Nat) (w : Value) := d.shownInside (id :: around) depth w
    match v with
    | .null => .ok "None"
    | .notANumber _ => .ok "nan"
    | .bool b => .ok (if b then "True" else "False")
    | .int n => (Whole.text? n).elim (.error .tooLong) .ok
    | .float x => .ok x.text
    | .time t => .ok t.text
    | .text s => .ok (quoted s)
    | .bytes bs => .ok (quotedBytes bs)
    | .pair a b => do
      let first ← d.shownInside around depth a
      let second ← d.shownInside around depth b
      return enclosed "(" ")" [first, second]
    | .collection id =>
      let isAround := around.contains id
      match d.collections.lookup id with
      | some (.list items) =>
        if isAround then .ok "[...]"
        else enclosed "[" "]" <$> items.mapM (part id)
      | some (.map entries) =>
        if isAround then .ok "\x7b...\x7d"
        else do
          let parts ← entries.mapM fun e => do
            return (← part id e.1) ++ ": " ++ (← part id e.2)
          return enclosed "\x7b" "\x7d" parts
      | some (.set []) => .ok "set()"
      | some (.set members) =>
        enclosed "\x7b" "\x7d" <$> members.mapM (part id)
      | none => .ok "None"

/-- How a value that is nested at most `depth` deep is shown in messages. -/
def shown (d : Document) (depth : Nat) (v : Value) : Except ShowFault String :=
  d.shownInside [] depth v

/-- How a value without parts is shown where it stands for itself: text
without quotation marks, and times in ISO form; none if it is a number that
is too long. -/
def bare? (d : Document) : Value → Option String
  | .text s => some s
  | .time t => some t.iso
  | v => (d.shown 1 v).toOption

end Document

end LogQuery.Yaml
