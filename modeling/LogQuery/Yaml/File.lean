/-
YAML files: the document that the bytes of a file hold.
-/
import LogQuery.FileTree
import LogQuery.Yaml.Build

namespace LogQuery.Yaml

open Text

/-- Why a file holds no document. -/
inductive DocumentError where
  /-- The file can not be read. -/
  | file (e : FileError)
  /-- The file is no text. -/
  | encoding (d : Utf8Defect)
  /-- The text is no YAML; what is wrong with it. -/
  | malformed (detail : String)
  /-- No character has the number that is asked for. -/
  | noCharacter (number : Nat)
  /-- A collection lies inside too many others. -/
  | tooDeep
  /-- The text holds a scalar that has no value. -/
  | scalar (e : ScalarFault)
deriving DecidableEq

/-- Whether a number is too large even to be looked up. -/
def isHugeNumber (n : Nat) : Bool := 0x7FFFFFFF < n

/-- The report of a failure about a file that is called `name`. -/
def DocumentError.message (name : String) : DocumentError → String
  | file e => e.message
  | encoding d => d.message
  | malformed detail => "Invalid YAML in " ++ name ++ ": " ++ detail
  | noCharacter n =>
    if isHugeNumber n then "Python int too large to convert to C int"
    else "chr() arg not in range(0x110000)"
  | tooDeep => "maximum recursion depth exceeded"
  | scalar e => e.message

/-- What is said of every text that is no YAML. -/
def noYaml : String := "the text is no YAML"

/-- The document in a file of these bytes. Bytes that are no text are refused
as a whole, whatever stands before the first that is none. -/
def Document.ofBytes (bytes : ByteArray) : Except DocumentError Document := do
  let s ← (decodeFile bytes).mapError fun d => .encoding d.inPieces
  (Document.ofText s).mapError fun
    | .malformed => .malformed noYaml
    | .noCharacter n => .noCharacter n
    | .tooDeep => .tooDeep
    | .scalar e => .scalar e

end LogQuery.Yaml
