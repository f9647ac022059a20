/-
The page that lists the functions of the language.

A table lists functions if its first row has a cell that says `Function`; the
functions are what the other rows have in the column of that cell. Rows and
cells are looked for at any depth, so a table inside a table gives its rows
to both.
-/
import LogQuery.FunctionList
import LogQuery.Html.Node
import LogQuery.Number.Binary64

namespace LogQuery

open Html

namespace ReferencePage

-- ================================================================== tables

/-- What the head of a column of functions says. -/
def columnHead : String := "Function"

/-- What a cell says: its texts, joined by `gap`. -/
def cellText (gap : String) (cell : Node) : String :=
  String.intercalate gap cell.texts

/-- The first column of functions, in a table with this first row. -/
def column? (first : Node) : Option Nat :=
  (first.inside ["th", "td"]).findIdx? fun c => cellText " " c = columnHead

/-- The name in a column of a row, if the row is that long. -/
def nameAt? (column : Nat) (row : Node) : Option String :=
  (row.inside ["td", "th"])[column]?.map fun c =>
    FunctionList.nameOf (cellText "" c)

/-- The names in a table; none if the table does not list functions. -/
def namesIn? (table : Node) : Option (List String) :=
  match table.inside ["tr"] with
  | [] => none
  | first :: rows => (column? first).map fun n => rows.filterMap (nameAt? n)

/-- The names without empty ones and repetitions. -/
def distinct (names : List String) : List String :=
  (names.filter (· ≠ "")).eraseDups

/-- The names among nodes, in page order; none if no table lists functions. -/
def namesAmong? (nodes : List Node) : Option (List String) :=
  match (Node.among ["table"] nodes).filterMap namesIn? with
  | [] => none
  | lists => some (distinct lists.flatten)

-- ================================================================ fetching

/-- The kind of client that requests claim to come from. -/
def defaultAgent : String :=
  "Mozilla/5.0 (X11; Linux x86_64) AppleWebKit/537.36 (KHTML, like Gecko) "
    ++ "Chrome/120.0 Safari/537.36"

/-- A request for a page: its address, how many seconds to wait, and the kind
of client that asks. -/
structure Request where
  url : String
  timeout : Binary64
  userAgent : String
deriving DecidableEq, Repr

/-- The request for a page at an address. -/
def Request.ofUrl (url : String) (timeout : Binary64) : Request :=
  ⟨url, timeout, defaultAgent⟩

/-- What comes back: nothing, for a reason, or a page with a status. -/
inductive Response where
  | failed (reason : String)
  | answered (status : Nat) (reason body : String)
  /-- The page came, but its bytes make up no text. -/
  | garbled (status : Nat) (reason report : String)
  /-- The request was not made: what it asks for is no address or no time. -/
  | impossible (report : String)
deriving DecidableEq, Repr

/-- Why a page gives no names. -/
inductive FetchError where
  /-- The page did not come. -/
  | unavailable (url reason : String)
  /-- No table of the page lists functions. -/
  | noTable
  /-- The page can not be read. -/
  | refused (r : Refusal)
  /-- The request can not be made, or its answer makes up no text. -/
  | unforeseen (report : String)
deriving DecidableEq, Repr

/-- The report of a failure. -/
def FetchError.message : FetchError → String
  | unavailable url reason => "Could not fetch " ++ url ++ ": " ++ reason
  | noTable =>
    "No table with a '" ++ columnHead ++ "' column found in reference page"
  | refused r => r.message
  | unforeseen report => report

/-- Whether the failure is one that a user can be told about. -/
def FetchError.isExpected : FetchError → Bool
  | refused _ | unforeseen _ => false
  | _ => true

/-- Where the page is found. -/
def defaultUrl : String :=
  "https://library.humio.com/data-analysis/functions.html"

/-- How many seconds to wait for the page. -/
def defaultTimeout : Binary64 := .ofRatio false 30 1

/-- Whose fault a status says a failure is, if it says so. -/
def blame? (status : Nat) : Option String :=
  if 400 ≤ status ∧ status < 500 then some "Client"
  else if 500 ≤ status ∧ status < 600 then some "Server"
  else none

/-- The page is taken from an answer whose status says that all is well. -/
def pageOfStatus (url : String) (status : Nat) (reason : String)
    (page : Except FetchError String) : Except FetchError String :=
  match blame? status with
  | none => page
  | some side =>
    .error (.unavailable url (toString status ++ " " ++ side ++ " Error: "
      ++ reason ++ " for url: " ++ url))

/-- The page in the response to a request for `url`. -/
def pageOf (url : String) : Response → Except FetchError String
  | .failed reason => .error (.unavailable url reason)
  | .answered status reason body => pageOfStatus url status reason (.ok body)
  | .garbled status reason report =>
    pageOfStatus url status reason (.error (.unforeseen report))
  | .impossible report => .error (.unforeseen report)

/-- The names on a page. -/
def names [Packages] (page : String) : Except FetchError (List String) :=
  match Packages.nodes page with
  | .error r => .error (.refused r)
  | .ok nodes => (namesAmong? nodes).elim (.error .noTable) .ok

/-- The names on the page in a response. -/
def namesOf [Packages] (url : String) (r : Response) :
    Except FetchError (List String) := do
  names (← pageOf url r)

/-- What is logged before a page is fetched. -/
def startLine (url : String) : LogLine :=
  ⟨.info, FunctionList.logger, "Fetching function reference from " ++ url⟩

/-- The names on the page that answers a request, and what is logged. -/
def fetch [Packages] (respond : Request → Response) (r : Request) :
    Except FetchError (List String) × List LogLine :=
  match namesOf r.url (respond r) with
  | .error e => (.error e, [startLine r.url])
  | .ok names =>
    let found := "Found " ++ toString names.length ++ " functions at " ++ r.url
    (.ok names, [startLine r.url, ⟨.info, FunctionList.logger, found⟩])

end ReferencePage

end LogQuery
