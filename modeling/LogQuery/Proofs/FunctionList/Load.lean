/-
When a function list gives a vocabulary.

A list that can not be loaded should cost no more than its names: the run
goes on without them and the log says why. This holds for a path that leads
nowhere, for a directory, for a text that is no YAML and for a document that
is no list of names. It does not hold for every file. Bytes that are no
text, numbers of characters that do not exist, collections too deep inside
each other, scalars that have no value and an item that can not be shown end
the run instead, and so does a path under the home of an account whose name
can not be looked up.

`Fatal` says which bytes these are, without following the loader, and
`vocabulary_of_list` gives the answer for every path in every tree, whatever
reads the YAML. Bytes that are no text need not end the run: a reader that
goes through the file in pieces may have found by then that it is no YAML.
-/
import Mathlib.Control.Monad.Basic
import LogQuery.FunctionList

namespace LogQuery

open Text Yaml

-- ==================================================================== homes

/-- The account that a path starts from, with the mark of an account before
it. -/
def Path.account (path : String) : List Char :=
  path.toList.takeWhile (· ≠ '/')

/-- The only reason not to expand a path. -/
theorem FileTree.cause_of_expandHome {t : FileTree} {path : String}
    {e : FileError} (h : t.expandHome path = .error e) :
    e.cause = .endMark := by
  unfold expandHome at h
  split at h
  · dsimp only at h
    split at h
    · cases h
    · split at h
      · cases h; rfl
      · split at h <;> cases h
  · cases h

/-- A path is expanded unless the account it starts from holds the mark that
ends a path. -/
theorem FileTree.expandHome_error_iff {t : FileTree} {path : String} :
    (∃ e, t.expandHome path = .error e) ↔
      path.toList.head? = some '~' ∧ Path.endMark ∈ Path.account path := by
  unfold expandHome Path.account
  split
  · next more h =>
    have hmark : Path.endMark ≠ '~' := by decide
    rw [h, List.takeWhile_cons_of_pos (by decide)]
    simp only [List.head?_cons, List.mem_cons, hmark, false_or, true_and]
    generalize more.takeWhile (· ≠ '/') = account
    cases account with
    | nil => simp
    | cons c account =>
      by_cases hmem : Path.endMark ∈ c :: account
      · simp only [List.isEmpty_cons, List.contains_iff_mem, hmem,
          ite_true, Bool.false_eq_true, ite_false]
        exact iff_of_true ⟨_, rfl⟩ trivial
      · simp only [List.isEmpty_cons, List.contains_iff_mem, hmem,
          Bool.false_eq_true, ite_false, iff_false]
        rintro ⟨e, he⟩
        split at he <;> cases he
  · next h =>
    constructor
    · rintro ⟨e, he⟩
      cases he
    · rintro ⟨hhead, -⟩
      cases hp : path.toList with
      | nil => simp [hp] at hhead
      | cons c more =>
        rw [hp, List.head?_cons, Option.some.injEq] at hhead
        exact absurd (hhead ▸ hp) (h more)

namespace FunctionList

-- ==================================================================== items

/-- The items of a list are texts up to its end, or up to an item that is no
text. -/
theorem texts_then_end_or_item (items : List Value) :
    (∃ names : List String, items = names.map .text) ∨
      ∃ (names : List String) (item : Value) (rest : List Value),
        items = names.map .text ++ item :: rest ∧ ∀ s, item ≠ .text s := by
  induction items with
  | nil => exact .inl ⟨[], rfl⟩
  | cons item items ih =>
    by_cases htext : ∃ s, item = .text s
    · obtain ⟨s, rfl⟩ := htext
      rcases ih with ⟨names, rfl⟩ | ⟨names, item, rest, rfl, hitem⟩
      · exact .inl ⟨s :: names, rfl⟩
      · exact .inr ⟨s :: names, item, rest, rfl, hitem⟩
    · exact .inr ⟨[], item, items, rfl, fun s hs => htext ⟨s, hs⟩⟩

section

variable [Packages]

/-- A list of texts gives its texts. -/
theorem texts_map_text (d : Document) (names : List String) :
    texts d (names.map .text) = .ok names := by
  induction names with
  | nil => rfl
  | cons name names ih => rw [List.map_cons, texts, ih]; rfl

/-- The first item that is no text is the one reported. -/
theorem texts_first_item {d : Document} {item : Value}
    (hitem : ∀ s, item ≠ .text s) (names : List String) (rest : List Value) :
    texts d (names.map .text ++ item :: rest)
      = .error (noTextError d item) := by
  induction names with
  | nil => exact texts.eq_3 d item rest hitem
  | cons name names ih => rw [List.map_cons, List.cons_append, texts, ih]; rfl

/-- The report of an item lets the run go on if it can show the item. -/
theorem noTextError_isTolerable (d : Document) (item : Value) :
    (noTextError d item).isTolerable
      = (d.shown Packages.deepest item).isOk := by
  unfold noTextError
  cases d.shown Packages.deepest item with
  | ok s => rfl
  | error e => rfl

end

-- ==================================================================== files

/-- What a path leads to can be read, or is a directory. -/
theorem read_of_has {t : FileTree} {file : String} (h : t.has file = true) :
    (∃ bytes, t.read file = .ok bytes) ∨
      t.read file = .error ⟨.isDirectory, file⟩ := by
  unfold FileTree.has FileTree.find? at h
  unfold FileTree.read
  cases hl : t.locate file with
  | error e => simp [hl] at h
  | ok l =>
    cases he : t.entry? l with
    | none => simp [hl, he] at h
    | some entry =>
      cases entry with
      | directory => exact .inr (by simp [bind, Except.bind, he])
      | file bytes => exact .inl ⟨bytes, by simp [bind, Except.bind, he]⟩

/-- A file that can be read is there. -/
theorem has_of_read {t : FileTree} {file : String} {bytes : ByteArray}
    (h : t.read file = .ok bytes) : t.has file = true := by
  unfold FileTree.read at h
  unfold FileTree.has FileTree.find?
  cases hl : t.locate file with
  | error e => rw [hl] at h; cases h
  | ok l =>
    cases he : t.entry? l with
    | none => simp [hl, bind, Except.bind, he] at h
    | some entry => simp [he]

section

variable [Packages]

/-- What a file of these bytes lists; reports call it `path`. -/
def listed (path : String) (bytes : ByteArray) : Except LoadError NameSet :=
  match Packages.document bytes with
  | .error e => .error (.noDocument path e)
  | .ok d =>
    match items? d with
    | none => .error (.noList path)
    | some items => (texts d items).map namesOf

theorem listed_of_error {path : String} {bytes : ByteArray}
    {e : DocumentError} (h : Packages.document bytes = .error e) :
    listed path bytes = .error (.noDocument path e) := by
  rw [listed, h]

theorem listed_of_no_list {path : String} {bytes : ByteArray} {d : Document}
    (hd : Packages.document bytes = .ok d) (hitems : items? d = none) :
    listed path bytes = .error (.noList path) := by
  simp only [listed, hd, hitems]

theorem listed_of_names {path : String} {bytes : ByteArray} {d : Document}
    {names : List String} (hd : Packages.document bytes = .ok d)
    (hitems : items? d = some (names.map .text)) :
    listed path bytes = .ok (namesOf names) := by
  simp only [listed, hd, hitems, texts_map_text]
  rfl

theorem listed_of_item {path : String} {bytes : ByteArray} {d : Document}
    {names : List String} {item : Value} {rest : List Value}
    (hd : Packages.document bytes = .ok d)
    (hitems : items? d = some (names.map .text ++ item :: rest))
    (hitem : ∀ s, item ≠ .text s) :
    listed path bytes = .error (noTextError d item) := by
  simp only [listed, hd, hitems, texts_first_item hitem]
  rfl

/-- How a file of these bytes is read as a list, with what comes of it. -/
inductive Listed (path : String) (bytes : ByteArray) :
    Except LoadError NameSet → Prop where
  | noDocument (e : DocumentError)
    (hd : Packages.document bytes = .error e) :
    Listed path bytes (.error (.noDocument path e))
  | noList : Listed path bytes (.error (.noList path))
  | item (d : Document) (names : List String) (item : Value)
    (rest : List Value) (hd : Packages.document bytes = .ok d)
    (hitems : items? d = some (names.map .text ++ item :: rest))
    (hitem : ∀ s, item ≠ .text s) :
    Listed path bytes (.error (noTextError d item))
  | names (d : Document) (names : List String)
    (hd : Packages.document bytes = .ok d)
    (hitems : items? d = some (names.map .text)) :
    Listed path bytes (.ok (namesOf names))

theorem listed_cases (path : String) (bytes : ByteArray) :
    Listed path bytes (listed path bytes) := by
  cases hd : Packages.document bytes with
  | error e =>
    rw [listed_of_error hd]
    exact .noDocument e hd
  | ok d =>
    cases hitems : items? d with
    | none =>
      rw [listed_of_no_list hd hitems]
      exact .noList
    | some items =>
      rcases texts_then_end_or_item items with
        ⟨names, rfl⟩ | ⟨names, item, rest, rfl, hitem⟩
      · rw [listed_of_names hd hitems]
        exact .names d names hd hitems
      · rw [listed_of_item hd hitems hitem]
        exact .item d names item rest hd hitems hitem

/-- Loading a file that can be read is reading what it lists. -/
theorem load_of_read {t : FileTree} {path file : String} {bytes : ByteArray}
    (hfile : t.expandHome path = .ok file)
    (hbytes : t.read file = .ok bytes) :
    load t path = listed file bytes := by
  simp only [load, listed, hfile, has_of_read hbytes, readDocument, hbytes,
    Except.mapError, bind, Except.bind]
  cases Packages.document bytes with
  | error e => rfl
  | ok d =>
    dsimp only
    cases items? d with
    | none => rfl
    | some items => cases texts d items <;> rfl

/-- A file that can not be read is reported, and the run can go on. -/
theorem load_of_unread {t : FileTree} {path file : String} {e : FileError}
    (hfile : t.expandHome path = .ok file) (he : t.read file = .error e) :
    ∃ e, load t path = .error e ∧ e.isTolerable = true := by
  cases hhas : t.has file with
  | false =>
    refine ⟨.missing file, ?_, rfl⟩
    simp [load, hfile, hhas, Except.mapError, bind, Except.bind]
  | true =>
    have hdir : t.read file = .error ⟨.isDirectory, file⟩ := by
      rcases read_of_has hhas with ⟨bytes, hbytes⟩ | hdir
      · rw [hbytes] at he; cases he
      · exact hdir
    refine ⟨.noDocument file (.file ⟨.isDirectory, file⟩), ?_, rfl⟩
    simp [load, hfile, hhas, readDocument, hdir, Except.mapError, bind,
      Except.bind]

-- =================================================================== fatal

/-- What a file can hold that ends the run: no text, unless it is refused as
YAML before that shows; a number that is no character's, collections too deep
inside each other, a scalar without a value, or a list whose first item that
is no text can not be shown. -/
inductive Fatal (bytes : ByteArray) : Prop where
  | encoding (d : Utf8Defect) (hd : decodeFile bytes = .error d)
    (h : ∀ detail, Packages.document bytes ≠ .error (.malformed detail))
  | character (s : String) (n : Nat) (hs : decodeFile bytes = .ok s)
    (h : Packages.document bytes = .error (.noCharacter n))
  | depth (s : String) (hs : decodeFile bytes = .ok s)
    (h : Packages.document bytes = .error .tooDeep)
  | scalar (s : String) (e : ScalarFault) (hs : decodeFile bytes = .ok s)
    (h : Packages.document bytes = .error (.scalar e))
  | item (d : Document) (names : List String) (item : Value)
    (rest : List Value) (e : Document.ShowFault)
    (hd : Packages.document bytes = .ok d)
    (hitems : items? d = some (names.map .text ++ item :: rest))
    (hitem : ∀ s, item ≠ .text s)
    (h : d.shown Packages.deepest item = .error e)

/-- A reader that fails in any way but to refuse a file as YAML has met what
ends the run. -/
theorem fatal_of_document {bytes : ByteArray} {e : DocumentError}
    (h : Packages.document bytes = .error e)
    (he : ∀ detail, e ≠ .malformed detail) : Fatal bytes := by
  cases hs : decodeFile bytes with
  | error d =>
    refine .encoding d hs fun detail hdetail => he detail ?_
    rw [h] at hdetail
    exact Except.error.inj hdetail
  | ok s =>
    cases e with
    | file e => exact absurd h (Packages.document_ne_file bytes e)
    | encoding d =>
      obtain ⟨d', hd'⟩ := Packages.defect_of_encoding h
      rw [hs] at hd'
      cases hd'
    | malformed detail => exact absurd rfl (he detail)
    | noCharacter n => exact .character s n hs h
    | tooDeep => exact .depth s hs h
    | scalar e => exact .scalar s e hs h

/-- Of the failures of a reader only that a file is no YAML lets the run go
on. -/
theorem noDocument_isTolerable_iff {path : String} {bytes : ByteArray}
    {e : DocumentError} (h : Packages.document bytes = .error e) :
    (LoadError.noDocument path e).isTolerable = true
      ↔ ∃ detail, e = .malformed detail := by
  cases e with
  | file e => exact absurd h (Packages.document_ne_file bytes e)
  | malformed detail => exact iff_of_true rfl ⟨detail, rfl⟩
  | encoding | noCharacter | tooDeep | scalar => simp [LoadError.isTolerable]

/-- A reader fails on bytes that are no text. -/
theorem exists_error_of_defect {bytes : ByteArray} {d : Utf8Defect}
    (h : decodeFile bytes = .error d) :
    ∃ e, Packages.document bytes = .error e := by
  cases hdocument : Packages.document bytes with
  | error e => exact ⟨e, rfl⟩
  | ok document =>
    obtain ⟨s, hs⟩ := Packages.text_of_document hdocument
    rw [h] at hs
    cases hs

/-- A list ends the run exactly if its bytes are fatal. -/
theorem listed_intolerable_iff {path : String} {bytes : ByteArray} :
    (∃ e, listed path bytes = .error e ∧ e.isTolerable = false) ↔
      Fatal bytes := by
  constructor
  · rintro ⟨e, he, hfatal⟩
    have hcases := listed_cases path bytes
    rw [he] at hcases
    cases hcases with
    | noDocument fault hd =>
      refine fatal_of_document hd ?_
      rintro detail rfl
      cases hfatal
    | noList => cases hfatal
    | item d names item rest hd hitems hitem =>
      rw [noTextError_isTolerable] at hfatal
      cases hshown : d.shown Packages.deepest item with
      | ok s => rw [hshown] at hfatal; cases hfatal
      | error e => exact .item d names item rest e hd hitems hitem hshown
  · intro h
    cases h with
    | encoding d hd h =>
      obtain ⟨e, he⟩ := exists_error_of_defect hd
      refine ⟨_, listed_of_error he, ?_⟩
      rw [← Bool.not_eq_true, noDocument_isTolerable_iff he]
      rintro ⟨detail, rfl⟩
      exact h detail he
    | character s n hs h => exact ⟨_, listed_of_error h, rfl⟩
    | depth s hs h => exact ⟨_, listed_of_error h, rfl⟩
    | scalar s e hs h => exact ⟨_, listed_of_error h, rfl⟩
    | item d names item rest e hd hitems hitem h =>
      refine ⟨_, listed_of_item hd hitems hitem, ?_⟩
      rw [noTextError_isTolerable, h]
      rfl

-- ============================================================== vocabularies

/-- Loading the list at a path ends the run: the path starts from an account
that can not be looked up, or leads to a file with fatal bytes. -/
def EndsRun (t : FileTree) (path : String) : Prop :=
  (path.toList.head? = some '~' ∧ Path.endMark ∈ Path.account path) ∨
    ∃ file bytes, t.expandHome path = .ok file ∧ t.read file = .ok bytes
      ∧ Fatal bytes

/-- The load of a list ends the run exactly if it fails with a report after
which a program can not go on. -/
theorem endsRun_iff {t : FileTree} {path : String} :
    EndsRun t path ↔ ∃ e, load t path = .error e ∧ e.isTolerable = false := by
  unfold EndsRun
  rw [← FileTree.expandHome_error_iff (t := t)]
  cases hfile : t.expandHome path with
  | error e =>
    refine iff_of_true (.inl ⟨e, rfl⟩) ⟨.noDocument path (.file e), ?_, ?_⟩
    · simp [load, hfile, Except.mapError, bind, Except.bind]
    · simp [LoadError.isTolerable, FileError.isOfSystem,
        FileTree.cause_of_expandHome hfile]
  | ok file =>
    cases hbytes : t.read file with
    | error e =>
      obtain ⟨e', he', htolerable⟩ := load_of_unread hfile hbytes
      simp [hbytes, he', htolerable]
    | ok bytes =>
      rw [load_of_read hfile hbytes, listed_intolerable_iff]
      simp [hbytes]

/-- The log line of a list that was loaded. -/
def loadedLine (names : NameSet) (path : String) : LogLine :=
  ⟨.debug, logger,
    "Loaded " ++ toString names.size ++ " functions from " ++ path⟩

/-- The log line of a list that could not be loaded. -/
def notLoadedLine (e : LoadError) : LogLine :=
  ⟨.warning, logger,
    "Could not load function list, highlighting no functions: " ++ e.message⟩

/-- A list that loads gives its names and a list that does not gives none,
each with the operators of the language and one line in the log, except for
the lists that end the run: these give neither a vocabulary nor a line. -/
theorem vocabulary_of_list (t : FileTree) (path : String) :
    (¬ EndsRun t path ∧ ∃ names, load t path = .ok names
      ∧ vocabulary t path
        = (.ok (.ofFunctions names), [loadedLine names path])) ∨
    (¬ EndsRun t path ∧ ∃ e, load t path = .error e
      ∧ vocabulary t path = (.ok .empty, [notLoadedLine e])) ∨
    (EndsRun t path ∧ ∃ e, load t path = .error e
      ∧ vocabulary t path = (.error e, [])) := by
  rw [endsRun_iff]
  unfold vocabulary
  cases hload : load t path with
  | ok names => exact .inl ⟨by simp, names, rfl, rfl⟩
  | error e =>
    cases htolerable : e.isTolerable with
    | true => exact .inr (.inl ⟨by simp [htolerable], e, rfl, by
        simp only [htolerable]; rfl⟩)
    | false => exact .inr (.inr ⟨⟨e, rfl, htolerable⟩, e, rfl, by
        simp [htolerable]⟩)

end

example :
    let t : FileTree :=
      ⟨"/home", [], [], [(["u.yml"], .file "- a\n- b(c)\n".toUTF8)], none⟩
    vocabulary t "u.yml"
      = (.ok (.ofFunctions (.ofList ["a", "b"])),
        [⟨.debug, logger, "Loaded 2 functions from u.yml"⟩]) := by
  decide +kernel

/-- A byte that starts no character ends the run: neither a vocabulary nor a
warning is given. -/
theorem vocabulary_invalid_byte :
    let t : FileTree :=
      ⟨"/home", [], [], [(["u.yml"], .file ⟨#[0x2D, 0x20, 0xFF, 0x0A]⟩)],
        none⟩
    vocabulary t "u.yml"
      = (.error (.noDocument "u.yml"
          (.encoding ⟨.startByte, 2, 1, 0xFF⟩)), []) := by
  decide +kernel

end FunctionList

end LogQuery
