/-
A session: queries are painted while the vocabulary changes.

At any time one vocabulary is in force. It is replaced as a whole, by one
that has been built before; where building fails, the one in force stays. Who
replaces it holds a lock meanwhile, and others who want to replace it wait.
Files are only looked at when a list is loaded from them.
-/
import LogQuery.FunctionList
import LogQuery.Highlight

namespace LogQuery

-- =================================================================== stores

/-- The vocabulary in force, and whether somebody holds the lock on it. -/
structure Store where
  vocabulary : Vocabulary
  isLocked : Bool
deriving DecidableEq

namespace Store

/-- A new store. -/
def ofVocabulary (v : Vocabulary) : Store := ⟨v, false⟩

instance : Coe Vocabulary Store := ⟨ofVocabulary⟩

/-- Takes the lock. -/
def lock (s : Store) : Store := { s with isLocked := true }

/-- Gives the lock back. -/
def unlock (s : Store) : Store := { s with isLocked := false }

/-- Puts a vocabulary in force. -/
def publish (s : Store) (v : Vocabulary) : Store :=
  { s.lock with vocabulary := v }.unlock

/-- Puts in force what is built while the lock is held. If building fails,
the vocabulary stays, and the lock is given back all the same. -/
def reload (s : Store) (built : Except ε Vocabulary) : Store :=
  match built with
  | .ok v => { s.lock with vocabulary := v }.unlock
  | .error _ => s.lock.unlock

end Store

-- ================================================================= sessions

/-- The vocabulary in force, the styles, and the files. -/
structure Session where
  store : Store
  styles : Styles
  files : FileTree
deriving DecidableEq

namespace Session

/-- The vocabulary in force. -/
def vocabulary (s : Session) : Vocabulary := s.store.vocabulary

/-- What can be asked of a session. -/
inductive Request where
  /-- Puts a vocabulary in force. -/
  | publish (v : Vocabulary)
  /-- Puts the result of building a vocabulary in force; a failure says
  why. -/
  | reload (built : Except String Vocabulary)
  /-- Puts the vocabulary of a function list in force. -/
  | reloadList (path : String)
  /-- Tells what the files are from now on. -/
  | files (t : FileTree)
  /-- Paints a query. -/
  | highlight (query : String)
  /-- Classifies a query. -/
  | classify (query : String)

/-- What a session answers. -/
inductive Reply where
  | done
  | published (v : Vocabulary)
  | failed (reason : String)
  | unloaded (e : FunctionList.LoadError)
  | painted (text : Styled)
  | classified (tokens : List Token)

/-- A reply, what was logged, and the session afterwards. -/
structure Outcome where
  reply : Reply
  log : List LogLine
  session : Session

/-- The report about a vocabulary that has come into force. -/
def report (how : String) (v : Vocabulary) : LogLine :=
  ⟨.debug, "lql.registry",
    how ++ " registry with " ++ toString v.functions.size ++ " functions"⟩

/-- Whether a request replaces the vocabulary, for which it takes the
lock. -/
def Request.takesLock : Request → Bool
  | publish _ | reload _ | reloadList _ => true
  | files _ | highlight _ | classify _ => false

/-- Answers one request whose turn it is. -/
def step [Packages] (s : Session) : Request → Outcome
  | .publish v =>
    ⟨.done, [report "Published" v], { s with store := s.store.publish v }⟩
  | .reload built =>
    let session := { s with store := s.store.reload built }
    match built with
    | .ok v => ⟨.published v, [report "Reloaded" v], session⟩
    | .error reason => ⟨.failed reason, [], session⟩
  | .reloadList path =>
    let start : LogLine :=
      ⟨.info, "lql.highlighting", "Reloading function list from " ++ path⟩
    let (built, log) := FunctionList.vocabulary s.files path
    let session := { s with store := s.store.reload built }
    match built with
    | .ok v => ⟨.published v, start :: log ++ [report "Reloaded" v], session⟩
    | .error e => ⟨.unloaded e, start :: log, session⟩
  | .files t => ⟨.done, [], { s with files := t }⟩
  | .highlight query =>
    ⟨.painted (LogQuery.highlight s.vocabulary s.styles query), [], s⟩
  | .classify query => ⟨.classified (tokens s.vocabulary query), [], s⟩

/-- Answers requests one after the other. One that needs the lock while it is
held waits for ever, and so do those behind it. -/
def run [Packages] (s : Session) : List Request → List Outcome
  | [] => []
  | r :: rs =>
    if s.store.isLocked && r.takesLock then []
    else s.step r :: (s.step r).session.run rs

end Session

end LogQuery
