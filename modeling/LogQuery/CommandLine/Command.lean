/-
What the program can be asked to do, and how it is asked.
-/
import LogQuery.CommandLine.Grammar
import LogQuery.Number.Decimal
import LogQuery.ReferencePage

namespace LogQuery.CommandLine

-- ================================================================ commands

/-- Where a query comes from. -/
inductive QuerySource where
  | file (path : String)
  | input
  | argument (query : String)
deriving DecidableEq, Repr

/-- The source that the arguments name: a file, if one with a name is given,
otherwise the argument itself; `-` stands for the standard input. -/
def QuerySource.ofArgs (file? : Option String) (arg : String) :
    QuerySource :=
  match file?.filter (· ≠ "") with
  | some path => file path
  | none => if arg = "-" then input else argument arg

/-- How tokens are printed. -/
inductive TokenFormat where
  | json
  | table
deriving DecidableEq, Repr

/-- What the program can be asked to do. -/
inductive Command where
  /-- Prints the function names. -/
  | listFunctions (asJson : Bool)
  /-- Writes the names on the reference page to a function list. Where it is
  written, how long to wait and the address can have been taken away. -/
  | refreshFunctions (output? : Option String) (timeout? : Option Binary64)
      (url? : Option String)
  /-- Prints a query as it is painted. -/
  | highlight (source : QuerySource)
  /-- Prints the tokens of a query, or its fragments. -/
  | tokens (source : QuerySource) (format : TokenFormat) (fragments : Bool)
deriving DecidableEq, Repr

/-- A command, and whether everything that is logged is shown. -/
structure Invocation where
  verbose : Bool
  command : Command
deriving DecidableEq, Repr

-- ================================================================= options

/-- Asks for the help text. -/
def helpOption : OptionRule σ :=
  ⟨["-h", "--help"], .help, "show this help message and exit"⟩

/-- An option whose value is any text. -/
def textOption (names : List String) (valueName purpose : String)
    (set : Option String → σ → σ) : OptionRule σ :=
  ⟨names, .take valueName fun s? => .ok (set s?), purpose⟩

/-- An option whose value is a number. -/
def numberOption (names : List String) (valueName purpose : String)
    (set : Option Binary64 → σ → σ) : OptionRule σ :=
  let read : Option String → Except BadValue (σ → σ)
    | none => .ok (set none)
    | some s =>
      match Binary64.ofText? s with
      | some x => .ok (set x)
      | none => .error (.noNumber s)
  ⟨names, .take valueName read, purpose⟩

/-- An option whose value is one of several words. -/
def choiceOption (names : List String) (choices : List (String × α))
    (purpose : String) (set : Option α → σ → σ) : OptionRule σ :=
  let words := choices.map (·.1)
  let read : Option String → Except BadValue (σ → σ)
    | none => .ok (set none)
    | some s =>
      match choices.lookup s with
      | some a => .ok (set a)
      | none => .error (.noChoice s words)
  let valueName := "\x7b" ++ String.intercalate "," words ++ "\x7d"
  ⟨names, .take valueName read, purpose⟩

/-- Takes the query from a file. -/
def fileOption (set : Option String → σ → σ) : OptionRule σ :=
  textOption ["-f", "--file"] "QUERY_FILE"
    "Read the query from this file instead of the command line." set

/-- The query itself. Without one it is read from the standard input. -/
def queryOperand : Operand String := .one "query" "-" id

-- ================================================================ grammars

/-- A reader of something made from what is read. -/
def Reader.map (f : α → β) (r : Reader α) : Reader β := fun args => do
  let (a, unknown) ← r args
  return (f a, unknown)

/-- Reads the arguments of `functions list`. -/
def listReader : Reader Command :=
  let g : Grammar Bool Unit := {
    program := "lql functions list"
    purpose := "Print the function names used for highlighting"
    options := [helpOption,
      ⟨["--json"], .set fun _ => true, "Print the names as a JSON array."⟩]
    operand := .none () }
  (g.reader false).map fun x => .listFunctions x.1

/-- Where a refreshed function list is written. -/
def defaultOutput : String := "~/.config/lql/functions.yml"

/-- Reads the arguments of `functions refresh`. -/
def refreshReader : Reader Command :=
  let g : Grammar
      (Option String × Option Binary64 × Option String) Unit := {
    program := "lql functions refresh"
    purpose :=
      "Scrape the LogScale function reference and write a function list"
    options := [helpOption,
      textOption ["-o", "--output"] "OUTPUT"
        ("Where to write the function list (default: " ++ defaultOutput
          ++ ").") fun s x => (s, x.2),
      numberOption ["--timeout"] "TIMEOUT"
        "Request timeout in seconds (default: 30)"
        fun t x => (x.1, t, x.2.2),
      textOption ["--url"] "URL"
        "Function reference URL (default: 'reference_url' from lql.yml)."
        fun s x => (x.1, x.2.1, s)]
    operand := .none () }
  let start := (some defaultOutput, some ReferencePage.defaultTimeout, none)
  (g.reader start).map fun x => .refreshFunctions x.1.1 x.1.2.1 x.1.2.2

/-- Reads the arguments of `functions`. -/
def functionsReader : Reader Command :=
  let g : Grammar Unit Command := {
    program := "lql functions"
    purpose := "Inspect or refresh the list of known function names"
    options := [helpOption]
    operand := .command "functions_command"
      [("list", listReader), ("refresh", refreshReader)] }
  (g.reader ()).map (·.2)

/-- Reads the arguments of `highlight`. -/
def highlightReader : Reader Command :=
  let g : Grammar (Option String) String := {
    program := "lql highlight"
    purpose := "Print a query with syntax highlighting"
    options := [helpOption, fileOption fun s? _ => s?]
    operand := queryOperand }
  (g.reader none).map fun x => .highlight (.ofArgs x.1 x.2)

/-- What the options of `tokens` give. -/
structure TokenOptions where
  file? : Option String
  format : TokenFormat
  fragments : Bool

/-- Reads the arguments of `tokens`. -/
def tokensReader : Reader Command :=
  let g : Grammar TokenOptions String := {
    program := "lql tokens"
    purpose := "Print the classified tokens of a query"
    options := [helpOption,
      fileOption fun file? x => { x with file? },
      choiceOption ["--format"] [("json", .json), ("rich", .table)]
        "Output format (default: rich)"
        fun f? x => { x with format := f?.getD .table },
      ⟨["--fragments"], .set fun x => { x with fragments := true },
        "Print raw scanner fragments (whitespace included) instead of "
          ++ "classified tokens."⟩]
    operand := queryOperand }
  (g.reader ⟨none, .table, false⟩).map fun x =>
    .tokens (.ofArgs x.1.file? x.2) x.1.format x.1.fragments

/-- The arguments of the program. -/
def grammar : Grammar Bool Command where
  program := "lql"
  purpose := "lql - LogScale query syntax classifier and highlighter"
  options := [helpOption,
    ⟨["--version"], .answer "lql 0.3.0\n",
      "show program's version number and exit"⟩,
    ⟨["-v", "--verbose"], .set fun _ => true, "Enable debug logging."⟩]
  operand := .command "command"
    [("functions", functionsReader), ("highlight", highlightReader),
      ("tokens", tokensReader)]

/-- The invocation that the arguments ask for. -/
def Invocation.ofArgs (args : List String) : Except Stop Invocation := do
  let (verbose, command) ← grammar.read false args
  return ⟨verbose, command⟩

end LogQuery.CommandLine
