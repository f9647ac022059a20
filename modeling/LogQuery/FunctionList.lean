/-
Lists of function names in files.

A list is a YAML file that holds either the names themselves or a mapping
whose `functions` are the names. A name may be given with its parameters,
which are left out. A list that can not be read leaves the vocabulary
without function names; only a file that is no text, or that holds a value
which can not be built or shown, stops the program.
-/
import LogQuery.Log
import LogQuery.Packages
import LogQuery.Text.Blank
import LogQuery.Vocabulary
import LogQuery.Yaml.Write

namespace LogQuery

open Text Yaml

namespace FunctionList

-- =================================================================== names

/-- The name in a signature: what stands before the first parenthesis. -/
def nameOf (signature : String) : String :=
  String.ofList (trimList (signature.toList.takeWhile (· ≠ '(')))

-- ================================================================== errors

/-- Why a file gives no function names. -/
inductive LoadError where
  /-- The path leads nowhere. -/
  | missing (path : String)
  /-- The file holds no document. -/
  | noDocument (path : String) (e : DocumentError)
  /-- The document is no list and has none. -/
  | noList (path : String)
  /-- An item of the list is no text; its type and how it is shown. -/
  | noText (type item : String)
  /-- An item of the list is no text and can not be shown. -/
  | unshown (e : Document.ShowFault)
deriving DecidableEq

/-- The report of a failure. -/
def LoadError.message : LoadError → String
  | missing path => "Function list not found: " ++ path
  | noDocument path e => e.message path
  | noList path =>
    path ++ " must contain a list of names or a 'functions' list"
  | noText type item =>
    "Function names must be strings, got: " ++ type ++ " (" ++ item ++ ")"
  | unshown e => e.message

/-- Failures after which a program can go on without function names. -/
def LoadError.isTolerable : LoadError → Bool
  | noDocument _ (.file e) => e.isOfSystem
  | noDocument _ (.malformed _) => true
  | noDocument .. | unshown _ => false
  | _ => true

-- ================================================================= reading

/-- The report of an item that is no text. -/
def noTextError [Packages] (d : Document) (item : Value) : LoadError :=
  match d.shown Packages.deepest item with
  | .ok s => .noText (d.typeText item) s
  | .error e => .unshown e

/-- The texts among the items of a list, if all of them are. -/
def texts [Packages] (d : Document) :
    List Value → Except LoadError (List String)
  | [] => .ok []
  | .text s :: items => do return s :: (← texts d items)
  | item :: _ => .error (noTextError d item)

/-- The items of the list that a document is or has. -/
def items? (d : Document) : Option (List Value) :=
  match d.entries? d.root with
  | some entries => (Value.get? entries "functions").bind d.items?
  | none => d.items? d.root

/-- The names that a list of signatures gives. Blank signatures give none. -/
def namesOf (signatures : List String) : NameSet :=
  .ofList ((signatures.filter fun s => trim s ≠ "").map nameOf)

/-- The function names in a file. -/
def load [Packages] (t : FileTree) (path : String) :
    Except LoadError NameSet := do
  let path ← (t.expandHome path).mapError fun e => .noDocument path (.file e)
  if !t.has path then .error (.missing path)
  else
    let document ← (readDocument t path).mapError (.noDocument path)
    match items? document with
    | none => .error (.noList path)
    | some items => do return namesOf (← texts document items)

-- ================================================================= writing

/-- The file that lists names. -/
def fileText (names : NameSet) : String :=
  Writer.keyedList "functions" names.toList

/-- Writes the names to a file. -/
def save (t : FileTree) (names : NameSet) (path : String) :
    Except FileError Unit × FileTree :=
  match t.expandHome path with
  | .ok path => t.writeText path (fileText names)
  | .error e => (.error e, t)

-- ============================================================ vocabularies

/-- The part of the program that reports about function lists. -/
def logger : String := "lql.function_list"

/-- The operators of the language with the function names of a file, or
without any if the file can not be read. -/
def vocabulary [Packages] (t : FileTree) (path : String) :
    Except LoadError Vocabulary × List LogLine :=
  match load t path with
  | .ok names =>
    let message :=
      "Loaded " ++ toString names.size ++ " functions from " ++ path
    (.ok (.ofFunctions names), [⟨.debug, logger, message⟩])
  | .error e =>
    if e.isTolerable then
      let message :=
        "Could not load function list, highlighting no functions: "
          ++ e.message
      (.ok .empty, [⟨.warning, logger, message⟩])
    else (.error e, [])

end FunctionList

end LogQuery
