/-
One run of the program.

A run is given the files, the standard input, whatever answers requests for
pages, and an output that need not take every text; it gives back what is
printed, the requests, and the files as they are afterwards. Faults of the
user are reported and give the status 1 or 2. A run may also break off, where
it meets a file, an answer or an output that nobody expects.
-/
import LogQuery.CommandLine.Command
import LogQuery.Json
import LogQuery.Settings
import LogQuery.Style
import LogQuery.Table
import LogQuery.Text.TabStops

namespace LogQuery.CommandLine

open Text

-- ==================================================================== runs

/-- What a run is given besides its arguments. The output is for a terminal
of `width` cells; `outputFault?` says why it does not take a text, if so. -/
structure World where
  width : Nat
  files : FileTree
  input : String
  respond : ReferencePage.Request → ReferencePage.Response
  outputFault? : String → Option String

/-- What a run breaks off at. -/
inductive Break where
  | settings (e : Settings.LoadError)
  | functionList (e : FunctionList.LoadError)
  | query (e : ReadError)
  /-- A style that is used is none. -/
  | style (text : String) (e : Style.Fault)
  | page (e : ReferencePage.FetchError)
  | output (e : FileError)
  /-- The output does not take what is printed. -/
  | print (report : String)
  /-- There is no path to write to. -/
  | noOutput
  /-- There is no time to wait for the page. -/
  | noTimeout
deriving DecidableEq

/-- The report of a run that has broken off. -/
def Break.message : Break → String
  | settings e => e.message
  | functionList e => e.message
  | query (.file e) => e.message
  | query (.encoding d) => d.message
  | style text e => e.message text
  | page e => e.message
  | output e => e.message
  | print report => report
  | noOutput => "expected str, bytes or os.PathLike object, not list"
  | noTimeout =>
    "float() argument must be a string or a real number, not 'list'"

/-- How a run ends. -/
inductive Ending where
  | exit (status : Nat)
  | broken (b : Break)
deriving DecidableEq

/-- What a run leaves behind: its ending, what it prints, what it logs, its
complaints, its requests, and the files. -/
structure Outcome where
  ending : Ending
  output : String
  log : List LogLine
  complaints : List String
  requests : List ReferencePage.Request
  files : FileTree

namespace Outcome

/-- A run that has printed something. -/
def printed (w : World) (output : String) (log : List LogLine) : Outcome :=
  ⟨.exit 0, output, log, [], [], w.files⟩

/-- A run that reports an error. -/
def failed (w : World) (message : String) : Outcome :=
  ⟨.exit 1, "", [], ["Error: " ++ message], [], w.files⟩

/-- A run that breaks off. -/
def broken (w : World) (b : Break) (log : List LogLine) : Outcome :=
  ⟨.broken b, "", log, [], [], w.files⟩

/-- A run that prints a text, if the output takes it. -/
def print (w : World) (text : String) : Outcome :=
  match w.outputFault? text with
  | none => printed w text []
  | some report => broken w (.print report) []

/-- A run that prints texts one after the other, as far as the output takes
them. -/
def printAll (w : World) : List String → Outcome
  | [] => printed w "" []
  | text :: texts =>
    match w.outputFault? text with
    | none =>
      let o := printAll w texts
      { o with output := text ++ o.output }
    | some report => broken w (.print report) []

/-- The outcome with lines logged before it. -/
def after (log : List LogLine) (o : Outcome) : Outcome :=
  { o with log := log ++ o.log }

end Outcome

-- ================================================================= queries

/-- The query from a source. -/
def QuerySource.query (s : QuerySource) (w : World) :
    Except ReadError String :=
  match s with
  | file path => w.files.readText path
  | input => .ok w.input
  | argument query => .ok query

/-- Does something with the query. -/
def withQuery (s : QuerySource) (w : World) (f : String → Outcome) :
    Outcome :=
  match s.query w with
  | .ok query => f query
  | .error (.file e) =>
    if e.isOfSystem then
      .failed w ("Could not read query file: " ++ e.message)
    else .broken w (.query (.file e)) []
  | .error e => .broken w (.query e) []

/-- Does something with the vocabulary of the settings. -/
def withVocabulary [Packages] (settings : Settings) (w : World)
    (f : Vocabulary → Outcome) : Outcome :=
  match settings.vocabulary w.files with
  | (.ok v, log) => (f v).after log
  | (.error e, log) => .broken w (.functionList e) log

-- =============================================================== highlight

/-- The plain text of a painted query, as a terminal of `width` cells shows
it. A line feed is added unless the query ends with one. -/
def paintedText (width : Nat) (query : String) (painted : Styled) : String :=
  let lines := (expandTabs painted.plain.toList).splitOn '\n'
  let text := String.ofList
    (['\n'].intercalate (lines.flatMap (wrap .fold width)))
  if query.toList.getLast? = some '\n' then text else text ++ "\n"

/-- The first of some styles that is none, if `counts` its fault. -/
def brokenStyle? [Packages] (counts : Style.Fault → Bool)
    (styles : List String) : Option Break :=
  styles.findSome? fun s =>
    match Packages.style s with
    | .ok _ => none
    | .error e => if counts e then some (.style s e) else none

/-- Prints the painted query. Definitions with wrong words count as none. -/
def runHighlight [Packages] (source : QuerySource) (settings : Settings)
    (w : World) : Outcome :=
  withQuery source w fun query =>
    withVocabulary settings w fun v =>
      let painted := highlight v settings.styles query
      match brokenStyle? (!·.isOfWords) (painted.spans.map (·.style)) with
      | some b => .broken w b []
      | none => .print w (paintedText w.width query painted)

-- ================================================================== tokens

/-- Something that a row tells about a token or a fragment. -/
inductive Cell where
  | offset (n : Int)
  | word (s : String)
  | text (s : String)

/-- A cell in a table. A text stands in quotation marks. -/
def Cell.shown : Cell → String
  | offset n => toString n
  | word s => s
  | text s => quoted s

/-- A cell in JSON. -/
def Cell.json : Cell → Json
  | offset n => .number n
  | word s => .text s
  | text s => .text s

/-- A row: its cells and its style, which is empty if it has none. -/
structure Row where
  style : String
  cells : List Cell

/-- Names of columns, and rows with a cell for each. -/
structure Listing where
  columns : List String
  rows : List Row

/-- The fragments of a query. They have no category, and only a style for no
category can be theirs. -/
def fragmentListing (styles : Styles) (query : String) : Listing where
  columns := ["start", "end", "kind", "text"]
  rows := (scan query).map fun f => {
    style := (styles.lookup "").getD ""
    cells := [.offset f.span.start, .offset f.span.stop, .word f.kind.name,
      .text f.text] }

/-- The tokens of a query. -/
def tokenListing (v : Vocabulary) (styles : Styles) (query : String) :
    Listing where
  columns := ["start", "end", "category", "context", "text"]
  rows := (tokens v query).map fun t => {
    style := styles.style t.category
    cells := [.offset t.span.start, .offset t.span.stop,
      .word t.category.name, .word t.context.name, .text t.text] }

/-- A listing in JSON. -/
def Listing.json (l : Listing) : String :=
  let row (r : Row) := Json.object (l.columns.zip (r.cells.map (·.json)))
  (Json.array (l.rows.map row)).render "" ++ "\n"

/-- A listing as a table. -/
def Listing.table (l : Listing) : Table :=
  ⟨l.columns, l.rows.map fun r => r.cells.map (·.shown)⟩

/-- Prints a listing. In a table every style of a row has to be one. -/
def runListing [Packages] (l : Listing) (format : TokenFormat) (w : World) :
    Outcome :=
  match format, brokenStyle? (fun _ => true) (l.rows.map (·.style)) with
  | .json, _ => .print w l.json
  | .table, some b => .broken w b []
  | .table, none => .print w (l.table.render w.width)

/-- Prints the tokens of the query, or its fragments, which need no
vocabulary. -/
def runTokens [Packages] (source : QuerySource) (format : TokenFormat)
    (fragments : Bool) (settings : Settings) (w : World) : Outcome :=
  withQuery source w fun query =>
    let styles := settings.styles
    if fragments then runListing (fragmentListing styles query) format w
    else
      withVocabulary settings w fun v =>
        runListing (tokenListing v styles query) format w

-- ========================================================== function names

/-- What is printed of function names: one text in JSON, or a line for each
name. -/
def listTexts (asJson : Bool) (names : List String) : List String :=
  if asJson then [(Json.array (names.map .text)).render "" ++ "\n"]
  else names.map (· ++ "\n")

/-- Prints the function names. -/
def runList [Packages] (asJson : Bool) (settings : Settings) (w : World) :
    Outcome :=
  withVocabulary settings w fun v =>
    .printAll w (listTexts asJson v.functions.toList)

/-- What is printed when names have been written. -/
def wroteText (names : List String) (output : String) : String :=
  "Wrote " ++ toString names.length ++ " function names to " ++ output ++ "\n"

/-- Writes the names that have been fetched from a page. -/
def storeNames (output : String) (names : List String) (w : World) :
    Outcome :=
  match FunctionList.save w.files (.ofList names) output with
  | (.ok (), files) =>
    .print { w with files } (wroteText names output)
  | (.error e, files) =>
    if e.isOfSystem then
      .failed { w with files }
        ("Could not write function list: " ++ e.message)
    else .broken { w with files } (.output e) []

/-- Fetches the reference page and writes the names on it. -/
def runRefresh [Packages] (output? : Option String)
    (timeout? : Option Binary64) (url? : Option String) (settings : Settings)
    (w : World) : Outcome :=
  let url := (url?.filter (· ≠ "")).getD settings.referenceUrl
  match timeout? with
  | none => .broken w .noTimeout [ReferencePage.startLine url]
  | some timeout =>
    let request := ReferencePage.Request.ofUrl url timeout
    let (fetched, log) := ReferencePage.fetch w.respond request
    let outcome : Outcome := match fetched, output? with
      | .error e, _ =>
        if e.isExpected then .failed w e.message else .broken w (.page e) []
      | .ok [], _ => .failed w ("No function names found at " ++ url)
      | .ok _, none => .broken w .noOutput []
      | .ok names, some output => storeNames output names w
    { outcome.after log with requests := [request] }

-- ===================================================================== run

/-- Carries a command out. -/
def Command.run [Packages] (c : Command) (settings : Settings) (w : World) :
    Outcome :=
  match c with
  | .listFunctions asJson => runList asJson settings w
  | .refreshFunctions output? timeout? url? =>
    runRefresh output? timeout? url? settings w
  | .highlight source => runHighlight source settings w
  | .tokens source format fragments =>
    runTokens source format fragments settings w

/-- What is logged about the settings that are in force. -/
def settingsLine (s : Settings) : LogLine :=
  ⟨.debug, "lql.main.entry", "Loaded config: " ++ s.shown⟩

/-- The lines of a log that are shown: all, or only the warnings. -/
def shownLog (verbose : Bool) (log : List LogLine) : List LogLine :=
  log.filter fun l => verbose || l.level = .warning

/-- Loads the settings and carries the command out. -/
def Invocation.run [Packages] (i : Invocation) (w : World) : Outcome :=
  let outcome : Outcome := match Settings.loadOrDefault w.files with
    | (.error e, log) => .broken w (.settings e) log
    | (.ok settings, log) =>
      (i.command.run settings w).after (log ++ [settingsLine settings])
  { outcome with log := shownLog i.verbose outcome.log }

/-- A run with the given arguments. -/
def run [Packages] (args : List String) (w : World) : Outcome :=
  match Invocation.ofArgs args with
  | .ok i => i.run w
  | .error (.answer text) => .printed w text []
  | .error (.fault program usage f) =>
    ⟨.exit 2, "", [], [usage, program ++ ": error: " ++ f.message], [],
      w.files⟩

/-- The lines on the error output: the log, then the complaints. -/
def Outcome.errorLines (o : Outcome) : List String :=
  o.log.map (·.render) ++ o.complaints

end LogQuery.CommandLine
