/-
The settings of a user.

They lie in a YAML file in the home directory. They are taken as a whole or
not at all: one wrong entry, and the file counts for nothing. What the file
does not say keeps its default.
-/
import LogQuery.Highlight
import LogQuery.ReferencePage
import LogQuery.Vocabulary.Builtin

namespace LogQuery

open Text Yaml

/-- What a user can set: a file that replaces the built-in function names,
names beside those of the list, where the list of all functions is found,
and styles. -/
structure Settings where
  functionsFile? : Option String
  extraFunctions : List String
  referenceUrl : String
  styles : Styles
deriving DecidableEq, Repr

namespace Settings

/-- The settings of a user who has set nothing. -/
def default : Settings := ⟨none, [], ReferencePage.defaultUrl, []⟩

-- ================================================================== errors

/-- Why the file gives no settings. -/
inductive LoadError where
  /-- There is no file. -/
  | missing (path : String)
  /-- The file holds no document. -/
  | noDocument (e : DocumentError)
  /-- The document is no mapping. -/
  | noMapping
  | functionsFile
  | extraFunctions
  | referenceUrl
  | styles
  /-- A category or its style is no text; the type of the style. -/
  | badStyle (category type : String)
  /-- The category is too long to be shown. -/
  | tooLong
deriving DecidableEq

/-- The report of a failure. -/
def LoadError.message : LoadError → String
  | missing path => "Config file not found: " ++ path
  | noDocument e => e.message "config"
  | noMapping => "Config must be a dictionary"
  | functionsFile => "'functions_file' must be a string"
  | extraFunctions => "'extra_functions' must be a list of strings"
  | referenceUrl => "'reference_url' must be a string"
  | styles => "'styles' must be a dictionary mapping categories to styles"
  | badStyle category type =>
    "Style for '" ++ category ++ "' must be a string, got: " ++ type
  | tooLong => Whole.tooLongText none

/-- Scalars without a value that a program can go on after: numbers and times
that are none. -/
def toleratesScalar : ScalarFault → Bool
  | .number .empty | .number .tooLarge => false
  | .number _ | .timestamp _ => true
  | .noTruthValue _ | .noTimestamp | .timestampOfMapping => false

/-- Failures after which a program can go on with the defaults. -/
def LoadError.isTolerable : LoadError → Bool
  | noDocument (.file e) => !e.isOfSystem
  | noDocument (.scalar e) => toleratesScalar e
  | noDocument (.noCharacter n) => !isHugeNumber n
  | noDocument .tooDeep => false
  | _ => true

-- ================================================================= entries

/-- The entries of a mapping. -/
abbrev Entries := List (Value × Value)

/-- The function list that the entries name. -/
def functionsFileIn (t : FileTree) (entries : Entries) :
    Except LoadError (Option String) :=
  match Value.get? entries "functions_file" with
  | none | some .null => .ok none
  | some (.text path) =>
    ((t.expandHome path).map some).mapError fun e => .noDocument (.file e)
  | some _ => .error .functionsFile

/-- The names that the entries add to the function list. -/
def extraFunctionsIn [Packages] (d : Document) (entries : Entries) :
    Except LoadError (List String) :=
  match Value.get? entries "extra_functions" with
  | none => .ok []
  | some v =>
    match d.items? v with
    | some items =>
      (FunctionList.texts d items).mapError fun _ => .extraFunctions
    | none => .error .extraFunctions

/-- Where the entries say that the list of all functions is found. -/
def referenceUrlIn (entries : Entries) : Except LoadError String :=
  match Value.get? entries "reference_url" with
  | none => .ok ReferencePage.defaultUrl
  | some (.text url) => .ok url
  | some _ => .error .referenceUrl

/-- The report of a category or a style that is no text. -/
def badStyleError (d : Document) (category style : Value) : LoadError :=
  match d.bare? category with
  | some s => .badStyle s (d.typeText style)
  | none => .tooLong

/-- Categories with their styles. -/
def stylesOf (d : Document) : Entries → Except LoadError Styles
  | [] => .ok []
  | (.text category, .text style) :: es =>
    return (category, style) :: (← stylesOf d es)
  | (category, style) :: _ => .error (badStyleError d category style)

/-- The styles among the entries. -/
def stylesIn (d : Document) (entries : Entries) : Except LoadError Styles :=
  match Value.get? entries "styles" with
  | none => .ok []
  | some v =>
    match d.entries? v with
    | some styles => stylesOf d styles
    | none => .error .styles

/-- The settings that a document holds. An empty one sets nothing. -/
def ofDocument [Packages] (t : FileTree) (d : Document) :
    Except LoadError Settings :=
  match d.root, d.entries? d.root with
  | .null, _ => .ok default
  | _, some entries => do
    let functionsFile? ← functionsFileIn t entries
    let extraFunctions ← extraFunctionsIn d entries
    let referenceUrl ← referenceUrlIn entries
    let styles ← stylesIn d entries
    return { functionsFile?, extraFunctions, referenceUrl, styles }
  | _, none => .error .noMapping

-- ================================================================= reading

/-- The file that holds the settings. -/
def path (home : String) : String :=
  Path.atHome home "/.config/lql/lql.yml".toList

/-- The settings in the file. -/
def load [Packages] (t : FileTree) : Except LoadError Settings := do
  let path := path t.home
  if !t.has path then .error (.missing path)
  else
    let document ← (readDocument t path).mapError .noDocument
    ofDocument t document

/-- The settings in the file, or the defaults if it gives none. A failure for
which no program waits is handed on. -/
def loadOrDefault [Packages] (t : FileTree) :
    Except LoadError Settings × List LogLine :=
  match load t with
  | .ok s => (.ok s, [])
  | .error (.missing _) => (.ok default, [])
  | .error e =>
    if e.isTolerable then
      let message :=
        "Ignoring malformed config " ++ path t.home ++ ": " ++ e.message
      (.ok default, [⟨.warning, "lql.config", message⟩])
    else (.error e, [])

-- ============================================================== vocabulary

/-- The function list of these settings, as a vocabulary. -/
def listVocabulary [Packages] (s : Settings) (t : FileTree) :
    Except FunctionList.LoadError Vocabulary × List LogLine :=
  match s.functionsFile? with
  | none | some "" => (.ok .builtin, [])
  | some path => FunctionList.vocabulary t path

/-- The vocabulary of these settings. -/
def vocabulary [Packages] (s : Settings) (t : FileTree) :
    Except FunctionList.LoadError Vocabulary × List LogLine :=
  let extra := NameSet.ofList s.extraFunctions
  let (built, log) := s.listVocabulary t
  (built.map fun v => v.withFunctions (v.functions.union extra), log)

-- ================================================================= showing

/-- The settings as a log shows them. -/
def shown (s : Settings) : String :=
  let styles := s.styles.map fun x => quoted x.1 ++ ": " ++ quoted x.2
  "LqlConfig(functions_file=" ++ s.functionsFile?.elim "None" quoted
    ++ ", extra_functions="
    ++ Document.enclosed "[" "]" (s.extraFunctions.map quoted)
    ++ ", reference_url=" ++ quoted s.referenceUrl
    ++ ", styles=" ++ Document.enclosed "\x7b" "\x7d" styles ++ ")"

end Settings

end LogQuery
