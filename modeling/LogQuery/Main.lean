/-
The program as a process.

It looks at the files that a run may read or write, carries the run out on
them, and puts back what the run has changed. No pages are fetched: every
request is answered by a failure.
-/
import LogQuery.CommandLine.Run

open LogQuery LogQuery.CommandLine

namespace LogQuery.Host

-- =================================================================== files

/-- The path of a location. -/
def pathOf (l : Location) : String := "/" ++ String.intercalate "/" l

/-- What the system has at a path. -/
def entryAt (path : String) : IO (Option FileTree.Entry) := do
  try
    return some (.file (← IO.FS.readBinFile path))
  catch _ =>
    try
      let _ ← IO.FS.realPath path
      return some .directory
    catch _ => return none

/-- Adds what the system has along the names from a location on. -/
def lookAlong (t : FileTree) (l : Location) : List String → IO FileTree
  | [] => pure t
  | name :: names =>
    if name = "" || name = "." then lookAlong t l names
    else if name = ".." then lookAlong t l.dropLast names
    else do
      let l := l ++ [name]
      match ← entryAt (pathOf l) with
      | some e => lookAlong (t.setEntry l e) l names
      | none => pure t

/-- Adds what the system has at a path and on the way to it. -/
def look (t : FileTree) (path : String) : IO FileTree := do
  let .ok path := t.expandHome path | return t
  if path.startsWith "/" then lookAlong t [] (Path.names path)
  else
    let t ← lookAlong t [] t.workingDirectory
    lookAlong t t.workingDirectory (Path.names path)

/-- Makes the system's files the same as those of a tree that has come from
another one. -/
def putBack (before after : FileTree) : IO Unit := do
  for (l, e) in after.entries.reverse do
    if before.entry? l ≠ some e then
      match e with
      | .directory => IO.FS.createDirAll (pathOf l)
      | .file bytes => IO.FS.writeBinFile (pathOf l) bytes

-- =================================================================== input

/-- All that is left of a stream. -/
partial def readAll (s : IO.FS.Stream) (seen : ByteArray) : IO ByteArray := do
  let bytes ← s.read 65536
  if bytes.isEmpty then return seen else readAll s (seen ++ bytes)

/-- The text on the standard input. -/
def readInput : IO String := do
  let bytes ← readAll (← IO.getStdin) .empty
  match Text.decodeFile bytes with
  | .ok s => return s
  | .error d => throw (IO.userError d.message)

-- ===================================================================== run

/-- What a run of a command may look at: the file of the query, the file to
write, and the standard input. -/
def prepare (c : Command) (w : World) : IO World := do
  let ofSource (source : QuerySource) : IO World := do
    match source with
    | .file path => return { w with files := ← look w.files path }
    | .input => return { w with input := ← readInput }
    | .argument _ => return w
  match c with
  | .highlight source | .tokens source .. => ofSource source
  | .refreshFunctions (some output) .. =>
    return { w with files := ← look w.files output }
  | _ => return w

/-- The home directories of the accounts of the system. -/
def accounts : IO (List (String × String)) := do
  try
    let lines := (← IO.FS.readFile "/etc/passwd").splitOn "\n"
    return lines.filterMap fun line =>
      let fields := line.splitOn ":"
      (fields[5]?).map fun home => (fields.headD "", home)
  catch _ => return []

/-- The files around the process, with the settings and the function list
that they name. -/
def currentFiles : IO FileTree := do
  let home := (← IO.getEnv "HOME").getD "/"
  let here := Path.names ((← IO.getEnv "PWD").getD "/") |>.filter (· ≠ "")
  let t ← look ⟨home, ← accounts, here, [], none⟩ (Settings.path home)
  match Settings.loadOrDefault t with
  | (.ok { functionsFile? := some path, .. }, _) => look t path
  | _ => return t

/-- The width of the terminal, or of what stands for one. -/
def terminalWidth : IO Nat := do
  return ((← IO.getEnv "COLUMNS").bind (·.toNat?)).getD 80

end LogQuery.Host

open LogQuery.Host in
/-- Runs the program. -/
def main (args : List String) : IO UInt32 := do
  let noPages (_ : ReferencePage.Request) : ReferencePage.Response :=
    .failed "pages can not be fetched"
  let w : World :=
    ⟨← terminalWidth, ← currentFiles, "", noPages, fun _ => none⟩
  let w ← match Invocation.ofArgs args with
    | .ok i => prepare i.command w
    | .error _ => pure w
  let o := run args w
  putBack w.files o.files
  (← IO.getStdout).putStr o.output
  let errors ← IO.getStderr
  for line in o.errorLines do
    errors.putStrLn line
  match o.ending with
  | .exit status => return status.toUInt32
  | .broken b =>
    errors.putStrLn b.message
    return 1
