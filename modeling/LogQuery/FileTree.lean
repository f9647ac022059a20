/-
The files that a run sees.

A tree is a value: reading looks entries up and writing gives a new tree. A
path is a text, read from the root if it starts with a slash and from the
working directory otherwise; each name on the way has to be a directory.
Failures name the path as it was given.

Writing a file takes two steps. Opening it makes it empty, and what is written
goes behind. The disk may be full by then, and of the old content nothing is
left either.
-/
import LogQuery.Text.Quoted
import LogQuery.Text.Utf8

namespace LogQuery

open Text

-- ================================================================== errors

/-- Why the system refuses a path. -/
inductive FileError.Cause where
  | missing
  | occupied
  | noDirectory
  | isDirectory
  | tooLong
  /-- The path holds the character that ends the paths of the system. -/
  | endMark
  /-- The disk is full. -/
  | noSpace
deriving DecidableEq, Repr

/-- A refused path and the reason. -/
structure FileError where
  cause : FileError.Cause
  path : String
deriving DecidableEq, Repr

/-- The report of a refused path. -/
def FileError.message (e : FileError) : String :=
  match e.cause with
  | .missing => "[Errno 2] No such file or directory: " ++ quoted e.path
  | .occupied => "[Errno 17] File exists: " ++ quoted e.path
  | .noDirectory => "[Errno 20] Not a directory: " ++ quoted e.path
  | .isDirectory => "[Errno 21] Is a directory: " ++ quoted e.path
  | .tooLong => "[Errno 36] File name too long: " ++ quoted e.path
  | .endMark => "embedded null byte"
  | .noSpace => "[Errno 28] No space left on device"

/-- Whether it is the system that refuses the path. -/
def FileError.isOfSystem (e : FileError) : Bool := e.cause ≠ .endMark

/-- Why a file gives no text. -/
inductive ReadError where
  | file (e : FileError)
  | encoding (d : Utf8Defect)
deriving DecidableEq, Repr

-- =================================================================== paths

namespace Path

/-- The names that a path is made of; empty ones stand between slashes that
follow each other. -/
def names (path : String) : List String :=
  (path.toList.splitOn '/').map String.ofList

/-- The path up to its last name, and that name. Slashes before the name are
left out, except those of the root. -/
def split (path : String) : String × String :=
  let cs := path.toList
  let name := (cs.reverse.takeWhile (· ≠ '/')).reverse
  let parent := cs.take (cs.length - name.length)
  let trimmed := (parent.reverse.dropWhile (· = '/')).reverse
  (String.ofList (if trimmed.isEmpty then parent else trimmed),
    String.ofList name)

/-- The path with a home directory for its first name. -/
def atHome (home : String) (rest : List Char) : String :=
  let root := (home.toList.reverse.dropWhile (· = '/')).reverse
  let path := String.ofList (root ++ rest)
  if path.isEmpty then "/" else path

/-- The character that ends a path for the system. -/
def endMark : Char := '\x00'

/-- The largest number of bytes in a name. -/
def longestName : Nat := 255

/-- The largest number of bytes in a path. -/
def longestPath : Nat := 4095

end Path

-- =================================================================== trees

/-- A place in the tree: the names on the way from the root. -/
abbrev Location := List String

/-- What is found at a location. -/
inductive FileTree.Entry where
  | directory
  | file (bytes : ByteArray)

instance : DecidableEq FileTree.Entry
  | .directory, .directory => isTrue rfl
  | .file a, .file b =>
    match ByteArray.instDecidableEq a b with
    | isTrue h => isTrue (congrArg _ h)
    | isFalse h => isFalse fun e => h (FileTree.Entry.file.inj e)
  | .directory, .file _ => isFalse nofun
  | .file _, .directory => isFalse nofun

/-- Entries by location, with the home and the working directory, and the
home directories of the accounts of the system. The root is always a
directory. `room?` is how many bytes of a file the disk takes before it is
full; without it there is room for every file. -/
structure FileTree where
  home : String
  accounts : List (String × String)
  workingDirectory : Location
  entries : List (Location × FileTree.Entry)
  room? : Option Nat
deriving DecidableEq

namespace FileTree

/-- The entry at a location. -/
def entry? (t : FileTree) (l : Location) : Option Entry :=
  if l = [] then some .directory else t.entries.lookup l

/-- The tree with another entry at a location. -/
def setEntry (t : FileTree) (l : Location) (e : Entry) : FileTree :=
  { t with entries := (l, e) :: t.entries.filter fun x => x.1 ≠ l }

/-- The path with a home directory for a first name that starts with `~`:
after it stands an account, or nothing. Of an unknown account the path stays
as it is. -/
def expandHome (t : FileTree) (path : String) : Except FileError String :=
  match path.toList with
  | '~' :: more =>
    let account := more.takeWhile (· ≠ '/')
    let rest := more.drop account.length
    if account.isEmpty then .ok (Path.atHome t.home rest)
    else if account.contains Path.endMark then .error ⟨.endMark, path⟩
    else
      match t.accounts.lookup (String.ofList account) with
      | some home => .ok (Path.atHome home rest)
      | none => .ok path
  | _ => .ok path

/-- Goes from `l` along the names. Whatever is gone through has to be a
directory; the last name may be free. -/
def walk (t : FileTree) (l : Location) :
    List String → Except FileError.Cause Location
  | [] => .ok l
  | name :: names =>
    match t.entry? l with
    | none => .error .missing
    | some (.file _) => .error .noDirectory
    | some .directory =>
      if Path.longestName < name.utf8ByteSize then .error .tooLong
      else if name = "" || name = "." then t.walk l names
      else if name = ".." then t.walk l.dropLast names
      else t.walk (l ++ [name]) names

/-- The location that a path leads to. -/
def locate (t : FileTree) (path : String) : Except FileError Location :=
  let start := if path.startsWith "/" then [] else t.workingDirectory
  if path.toList.contains Path.endMark then .error ⟨.endMark, path⟩
  else if path.isEmpty then .error ⟨.missing, path⟩
  else if Path.longestPath < path.utf8ByteSize then .error ⟨.tooLong, path⟩
  else (t.walk start (Path.names path)).mapError (⟨·, path⟩)

/-- The entry that a path leads to. -/
def find? (t : FileTree) (path : String) : Option Entry :=
  match t.locate path with
  | .ok l => t.entry? l
  | .error _ => none

/-- Whether a path leads anywhere. -/
def has (t : FileTree) (path : String) : Bool := (t.find? path).isSome

/-- Whether a path leads to a directory. -/
def hasDirectory (t : FileTree) (path : String) : Bool :=
  t.find? path = some .directory

-- ================================================================= reading

/-- The bytes of a file. -/
def read (t : FileTree) (path : String) : Except FileError ByteArray := do
  match t.entry? (← t.locate path) with
  | none => .error ⟨.missing, path⟩
  | some .directory => .error ⟨.isDirectory, path⟩
  | some (.file bytes) => .ok bytes

/-- The text of a file. -/
def readText (t : FileTree) (path : String) : Except ReadError String := do
  let bytes ← (t.read path).mapError .file
  (decodeFile bytes).mapError .encoding

-- ================================================================= writing

/-- Makes a directory at a free location. -/
def makeDirectory (t : FileTree) (path : String) :
    Except FileError FileTree := do
  let l ← t.locate path
  match t.entry? l with
  | some _ => .error ⟨.occupied, path⟩
  | none => .ok (t.setEntry l .directory)

/-- Makes a directory unless it is there. -/
def ensureDirectory (t : FileTree) (path : String) :
    Except FileError FileTree :=
  match t.makeDirectory path with
  | .ok t => .ok t
  | .error e => if t.hasDirectory path then .ok t else .error e

/-- Makes a directory and those that it lies in, as far as they are missing.
The tree keeps what was made before a failure. At most `depth` directories
are made. -/
def ensureDirectories (t : FileTree) :
    Nat → String → Except FileError Unit × FileTree
  | 0, _ => (.ok (), t)
  | depth + 1, path =>
    let last := match Path.split path with
      | (parent, "") => Path.split parent
      | parts => parts
    let above : Except FileError Unit × FileTree :=
      if last.1 ≠ "" ∧ last.2 ≠ "" ∧ ¬ t.has last.1 then
        t.ensureDirectories depth last.1
      else (.ok (), t)
    match above with
    | (.error e, t) =>
      if e.cause = .occupied then made t path else (.error e, t)
    | (.ok (), t) => made t path
where
  /-- The last directory of the path, in a tree with those around it. -/
  made (t : FileTree) (path : String) : Except FileError Unit × FileTree :=
    match t.ensureDirectory path with
    | .ok t => (.ok (), t)
    | .error e => (.error e, t)

/-- Whether there is room for a file of `n` bytes. -/
def hasRoom (t : FileTree) (n : Nat) : Bool := t.room?.all (n ≤ ·)

/-- What the disk takes of some bytes before it is full. -/
def taken (t : FileTree) (bytes : ByteArray) : ByteArray :=
  match t.room? with
  | some room => bytes.extract 0 room
  | none => bytes

/-- The location of a file that is opened to be written, in a tree with the
directories around it. -/
def openText (t : FileTree) (path : String) :
    Except FileError Location × FileTree :=
  let parent := (Path.split path).1
  let ready :=
    if parent = "" then (.ok (), t)
    else t.ensureDirectories parent.length parent
  match ready with
  | (.error e, t) => (.error e, t)
  | (.ok (), t) =>
    match t.locate path with
    | .error e => (.error e, t)
    | .ok l =>
      if t.entry? l = some .directory then (.error ⟨.isDirectory, path⟩, t)
      else (.ok l, t)

/-- Writes a text file, making the directories around it first. The file is
emptied when it is opened: if there is no room for the text, a first part of
it is all that the file holds. -/
def writeText (t : FileTree) (path text : String) :
    Except FileError Unit × FileTree :=
  let bytes := text.toUTF8
  match t.openText path with
  | (.error e, t) => (.error e, t)
  | (.ok l, t) =>
    (if t.hasRoom bytes.size then .ok () else .error ⟨.noSpace, path⟩,
      t.setEntry l (.file (t.taken bytes)))

end FileTree

end LogQuery
