/-
Kinds of YAML nodes.

Every node has a kind: a tag in the text asks for it, or the node shows it.
-/

namespace LogQuery.Yaml

/-- What a node is to be read as. `merge` and `default` are marks of mappings
that stand for no value of their own, and a kind that is `unknown` stands for
none either. -/
inductive Kind where
  | null
  | bool
  | int
  | float
  | binary
  | timestamp
  | text
  | sequence
  | mapping
  | set
  | orderedMap
  | pairs
  | merge
  | default
  | unknown
deriving DecidableEq, Repr

namespace Kind

/-- What the tags of known kinds start with. -/
def tagHead : String := "tag:yaml.org,2002:"

/-- The known kinds by the last parts of their tags. -/
def tagTails : List (String × Kind) := [
  ("null", null), ("bool", bool), ("int", int), ("float", float),
  ("binary", binary), ("timestamp", timestamp), ("str", text),
  ("seq", sequence), ("map", mapping), ("set", set), ("omap", orderedMap),
  ("pairs", pairs), ("merge", merge), ("value", default)]

/-- The kind that a tag asks for. -/
def ofTag (tag : String) : Kind :=
  ((tagTails.map fun x => (tagHead ++ x.1, x.2)).lookup tag).getD unknown

/-- Whether values of this kind hold other values. -/
def isCollection : Kind → Bool
  | sequence | mapping | set | orderedMap | pairs => true
  | _ => false

end Kind

end LogQuery.Yaml
