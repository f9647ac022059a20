/-
When a settings file counts.

What a mapping says about each setting can be told entry by entry (`Says`).
An entry that is not there leaves the default; an entry of a wrong type says
nothing, and then the mapping says nothing about any setting. A file gives
the settings that its document says, all of them or none.

`loadOrDefault_of_file` has the outcome for every tree, whatever reads the
YAML. A file that is not there gives the defaults, and so does one that gives
no settings, with one warning. Two sorts of files end the run instead
(`EndsRun`): a directory in the place of the file, and a document whose
failure is none of those that are waited for. Bytes that are no text are
among those; collections too deep inside each other are not.
-/
import LogQuery.Proofs.FileTree
import LogQuery.Proofs.FunctionList.Load
import LogQuery.Settings

namespace LogQuery

open Text Yaml

-- =================================================================== steps

section Steps

variable {ε ε' α β : Type} {x : Except ε α}

/-- Two steps succeed if each of them does. -/
theorem bind_eq_ok_iff {f : α → Except ε β} {b : β} :
    x >>= f = .ok b ↔ ∃ a, x = .ok a ∧ f a = .ok b := by
  cases x with
  | error e => exact ⟨nofun, nofun⟩
  | ok a =>
    constructor
    · intro h
      exact ⟨a, rfl, h⟩
    · rintro ⟨a', ha, h⟩
      cases ha
      exact h

/-- Two steps fail if the first one does, or the second one after it. -/
theorem bind_eq_error_iff {f : α → Except ε β} {e : ε} :
    x >>= f = .error e
      ↔ x = .error e ∨ ∃ a, x = .ok a ∧ f a = .error e := by
  cases x with
  | error e' =>
    constructor
    · intro h
      cases h
      exact .inl rfl
    · rintro (h | ⟨a, ha, -⟩)
      · cases h; rfl
      · cases ha
  | ok a =>
    constructor
    · intro h
      exact .inr ⟨a, rfl, h⟩
    · rintro (h | ⟨a', ha, h⟩)
      · cases h
      · cases ha; exact h

theorem mapError_eq_ok_iff {f : ε → ε'} {a : α} :
    x.mapError f = .ok a ↔ x = .ok a := by
  cases x with
  | error e => exact ⟨nofun, nofun⟩
  | ok a' =>
    constructor
    · intro h; cases h; rfl
    · intro h; cases h; rfl

theorem mapError_eq_error_iff {f : ε → ε'} {e : ε'} :
    x.mapError f = .error e ↔ ∃ e', x = .error e' ∧ f e' = e := by
  cases x with
  | error e' =>
    constructor
    · intro h; cases h; exact ⟨e', rfl, rfl⟩
    · rintro ⟨e'', h, rfl⟩; cases h; rfl
  | ok a =>
    constructor
    · nofun
    · rintro ⟨e', h, -⟩; cases h

end Steps

-- =================================================================== files

section

variable [Packages]

/-- The document of a file is that of its bytes. -/
theorem Yaml.readDocument_of_read {t : FileTree} {file : String}
    {bytes : ByteArray} (h : t.read file = .ok bytes) :
    readDocument t file = Packages.document bytes := by
  rw [readDocument, h]
  rfl

theorem Yaml.readDocument_eq_ok_iff {t : FileTree} {file : String}
    {d : Document} :
    readDocument t file = .ok d
      ↔ ∃ bytes, t.read file = .ok bytes ∧ Packages.document bytes = .ok d := by
  rw [readDocument, bind_eq_ok_iff]
  simp only [mapError_eq_ok_iff]

end

namespace Settings

variable {t : FileTree} {d : Document} {entries : Entries} {s : Settings}

-- ================================================================= entries

/-- What an entry makes of the function list. -/
inductive NamesFile (t : FileTree) : Option Value → Option String → Prop where
  | missing : NamesFile t none none
  | null : NamesFile t (some .null) none
  | text {path file : String} (h : t.expandHome path = .ok file) :
    NamesFile t (some (.text path)) (some file)

/-- What an entry makes of the names beside the list. -/
inductive ListsNames (d : Document) : Option Value → List String → Prop where
  | missing : ListsNames d none []
  | texts {v : Value} {names : List String}
    (h : d.items? v = some (names.map .text)) : ListsNames d (some v) names

/-- What an entry makes of the address of the list of all functions. -/
inductive GivesUrl : Option Value → String → Prop where
  | missing : GivesUrl none ReferencePage.defaultUrl
  | text (url : String) : GivesUrl (some (.text url)) url

/-- What an entry makes of the styles. -/
inductive GivesStyles (d : Document) : Option Value → Styles → Prop where
  | missing : GivesStyles d none []
  | texts {v : Value} {styles : Styles}
    (h : d.entries? v = some (styles.map fun x => (.text x.1, .text x.2))) :
    GivesStyles d (some v) styles

/-- What the entries of a mapping say about the settings. -/
structure Says (t : FileTree) (d : Document) (entries : Entries)
    (s : Settings) : Prop where
  functionsFile :
    NamesFile t (Value.get? entries "functions_file") s.functionsFile?
  extraFunctions :
    ListsNames d (Value.get? entries "extra_functions") s.extraFunctions
  referenceUrl : GivesUrl (Value.get? entries "reference_url") s.referenceUrl
  styles : GivesStyles d (Value.get? entries "styles") s.styles

/-- The entries name a function list just if the one for it says so. -/
theorem functionsFileIn_eq_ok_iff {file? : Option String} :
    functionsFileIn t entries = .ok file?
      ↔ NamesFile t (Value.get? entries "functions_file") file? := by
  unfold functionsFileIn
  split
  · next h =>
    rw [h]
    constructor
    · intro h; cases h; exact .missing
    · intro h; cases h; rfl
  · next h =>
    rw [h]
    constructor
    · intro h; cases h; exact .null
    · intro h; cases h; rfl
  · next path h =>
    -- a text is a path, which may name a home that can not be found
    rw [h, mapError_eq_ok_iff]
    cases hfile : t.expandHome path with
    | error e =>
      constructor
      · nofun
      · intro h; cases h with
        | text h => rw [hfile] at h; cases h
    | ok file =>
      constructor
      · intro h; cases h; exact .text hfile
      · intro h; cases h with
        | text h => rw [hfile] at h; cases h; rfl
  · next v hnull htext h =>
    rw [h]
    constructor
    · nofun
    · intro h; cases h with
      | null => exact absurd rfl hnull
      | text => exact absurd rfl (htext _)

/-- The texts of a list are all that it holds. -/
theorem texts_eq_ok_iff [Packages] {items : List Value}
    {names : List String} :
    FunctionList.texts d items = .ok names ↔ items = names.map .text := by
  constructor
  · intro h
    rcases FunctionList.texts_then_end_or_item items with
      ⟨names', rfl⟩ | ⟨names', item, rest, rfl, hitem⟩
    · rw [FunctionList.texts_map_text] at h
      cases h
      rfl
    · rw [FunctionList.texts_first_item hitem] at h
      cases h
  · rintro rfl
    exact FunctionList.texts_map_text d names

/-- They give further names just if the one for them does. -/
theorem extraFunctionsIn_eq_ok_iff [Packages] {names : List String} :
    extraFunctionsIn d entries = .ok names
      ↔ ListsNames d (Value.get? entries "extra_functions") names := by
  unfold extraFunctionsIn
  cases Value.get? entries "extra_functions" with
  | none =>
    constructor
    · intro h; cases h; exact .missing
    · intro h; cases h; rfl
  | some v =>
    cases hitems : d.items? v with
    | none =>
      constructor
      · simp [hitems]
      · intro h; cases h with
        | texts h => rw [hitems] at h; cases h
    | some items =>
      simp only [hitems, mapError_eq_ok_iff, texts_eq_ok_iff]
      constructor
      · rintro rfl
        exact .texts hitems
      · intro h; cases h with
        | texts h => rw [hitems] at h; exact Option.some.inj h

/-- They give an address just if the one for it does. -/
theorem referenceUrlIn_eq_ok_iff {url : String} :
    referenceUrlIn entries = .ok url
      ↔ GivesUrl (Value.get? entries "reference_url") url := by
  unfold referenceUrlIn
  split
  · next h =>
    rw [h]
    constructor
    · intro h; cases h; exact .missing
    · intro h; cases h; rfl
  · next url' h =>
    rw [h]
    constructor
    · intro h; cases h; exact .text _
    · intro h; cases h; rfl
  · next v htext h =>
    rw [h]
    constructor
    · nofun
    · intro h; cases h
      exact absurd rfl (htext _)

/-- The styles of a mapping are all that it holds. -/
theorem stylesOf_eq_ok_iff {es : Entries} {styles : Styles} :
    stylesOf d es = .ok styles
      ↔ es = styles.map fun x => (.text x.1, .text x.2) := by
  induction es generalizing styles with
  | nil =>
    cases styles with
    | nil => exact iff_of_true rfl rfl
    | cons x styles => exact ⟨nofun, nofun⟩
  | cons e es ih =>
    by_cases htext : ∃ category style, e = (.text category, .text style)
    · obtain ⟨category, style, rfl⟩ := htext
      simp only [stylesOf, bind_eq_ok_iff, ih]
      constructor
      · rintro ⟨styles', rfl, h⟩
        cases h
        rfl
      · intro h
        cases styles with
        | nil => cases h
        | cons x styles =>
          cases h
          exact ⟨styles, rfl, rfl⟩
    -- a category or a style that is no text
    · have hbad : stylesOf d (e :: es) = .error (badStyleError d e.1 e.2) :=
        stylesOf.eq_3 d e.1 e.2 es fun category style hc hs =>
          htext ⟨category, style, Prod.ext hc hs⟩
      rw [hbad]
      constructor
      · nofun
      · intro h
        cases styles with
        | nil => cases h
        | cons x styles =>
          cases h
          exact absurd ⟨x.1, x.2, rfl⟩ htext

/-- They give styles just if the one for them does. -/
theorem stylesIn_eq_ok_iff {styles : Styles} :
    stylesIn d entries = .ok styles
      ↔ GivesStyles d (Value.get? entries "styles") styles := by
  unfold stylesIn
  cases Value.get? entries "styles" with
  | none =>
    constructor
    · intro h; cases h; exact .missing
    · intro h; cases h; rfl
  | some v =>
    cases hentries : d.entries? v with
    | none =>
      constructor
      · simp [hentries]
      · intro h; cases h with
        | texts h => rw [hentries] at h; cases h
    | some es =>
      simp only [hentries, stylesOf_eq_ok_iff]
      constructor
      · rintro rfl
        exact .texts hentries
      · intro h; cases h with
        | texts h => rw [hentries] at h; exact Option.some.inj h

-- =============================================================== documents

/-- The settings of a document: those that an empty one leaves, or those that
the entries of a mapping say. -/
inductive Holds (t : FileTree) (d : Document) : Settings → Prop where
  | empty (h : d.root = .null) : Holds t d default
  | mapping {entries : Entries} {s : Settings}
    (hentries : d.entries? d.root = some entries)
    (h : Says t d entries s) : Holds t d s

/-- A document gives the settings that it holds. -/
theorem ofDocument_eq_ok_iff [Packages] :
    ofDocument t d = .ok s ↔ Holds t d s := by
  unfold ofDocument
  split
  · next hroot =>
    constructor
    · intro h
      cases h
      exact .empty hroot
    · intro h
      cases h with
      | empty => rfl
      | mapping hentries =>
        rw [hroot] at hentries
        cases hentries
  · next entries hentries hroot =>
    -- a mapping: each field is looked up by itself
    simp only [bind_eq_ok_iff, functionsFileIn_eq_ok_iff,
      extraFunctionsIn_eq_ok_iff, referenceUrlIn_eq_ok_iff,
      stylesIn_eq_ok_iff]
    constructor
    · rintro ⟨file?, hfile, names, hnames, url, hurl, styles, hstyles, h⟩
      cases h
      exact .mapping hentries ⟨hfile, hnames, hurl, hstyles⟩
    · intro h
      cases h with
      | empty h => exact absurd h hroot
      | mapping hentries' h =>
        rw [hentries] at hentries'
        cases hentries'
        exact ⟨_, h.functionsFile, _, h.extraFunctions, _, h.referenceUrl,
          _, h.styles, rfl⟩
  · next hentries hroot =>
    constructor
    · nofun
    · intro h
      cases h with
      | empty h => exact absurd h hroot
      | mapping hentries' =>
        rw [hentries] at hentries'
        cases hentries'

-- ================================================================ failures

/-- A failure that is warned of: there is a file, and the program can go on
without it. -/
structure LoadError.Warns (e : LoadError) : Prop where
  tolerable : e.isTolerable = true
  present : ∀ p, e ≠ .missing p

/-- A path that is not expanded holds the mark of its end, which is no
failure of the system. -/
theorem warns_of_functionsFileIn {e : LoadError}
    (h : functionsFileIn t entries = .error e) : e.Warns := by
  unfold functionsFileIn at h
  split at h
  · cases h
  · cases h
  · next path _ =>
    cases hfile : t.expandHome path with
    | ok file => rw [hfile] at h; cases h
    | error e' =>
      rw [hfile] at h
      cases h
      have hcause := FileTree.cause_of_expandHome hfile
      refine ⟨?_, fun p hp => ?_⟩
      · simp [LoadError.isTolerable, FileError.isOfSystem, hcause]
      · cases hp
  · cases h
    refine ⟨rfl, fun p hp => ?_⟩
    cases hp

theorem warns_of_extraFunctionsIn [Packages] {e : LoadError}
    (h : extraFunctionsIn d entries = .error e) : e.Warns := by
  unfold extraFunctionsIn at h
  split at h
  · cases h
  · split at h
    · obtain ⟨e', -, rfl⟩ := mapError_eq_error_iff.1 h
      exact ⟨rfl, nofun⟩
    · cases h
      exact ⟨rfl, nofun⟩

theorem warns_of_referenceUrlIn {e : LoadError}
    (h : referenceUrlIn entries = .error e) : e.Warns := by
  unfold referenceUrlIn at h
  split at h
  · cases h
  · cases h
  · cases h
    exact ⟨rfl, nofun⟩

/-- A style that is refused gives a warning. -/
theorem warns_of_stylesOf {es : Entries} {e : LoadError}
    (h : stylesOf d es = .error e) : e.Warns := by
  induction es with
  | nil => cases h
  | cons x es ih =>
    unfold stylesOf at h
    split at h
    · cases h
    · next heq =>
      cases heq
      rcases bind_eq_error_iff.1 h with h | ⟨styles, -, h⟩
      · exact ih h
      · cases h
    · cases h
      unfold badStyleError
      split
      · exact ⟨rfl, nofun⟩
      · exact ⟨rfl, nofun⟩

theorem warns_of_stylesIn {e : LoadError}
    (h : stylesIn d entries = .error e) : e.Warns := by
  unfold stylesIn at h
  split at h
  · cases h
  · split at h
    · exact warns_of_stylesOf h
    · cases h
      exact ⟨rfl, nofun⟩

/-- A document that holds no settings is warned of. -/
theorem warns_of_ofDocument [Packages] {e : LoadError}
    (h : ofDocument t d = .error e) : e.Warns := by
  unfold ofDocument at h
  split at h
  · cases h
  · simp only [bind_eq_error_iff] at h
    rcases h with h | ⟨_, -, h | ⟨_, -, h | ⟨_, -, h | ⟨_, -, h⟩⟩⟩⟩
    · exact warns_of_functionsFileIn h
    · exact warns_of_extraFunctionsIn h
    · exact warns_of_referenceUrlIn h
    · exact warns_of_stylesIn h
    · cases h
  · cases h
    exact ⟨rfl, nofun⟩

/-- Scalars for whose failure no program waits: a number that is spelled by
no text or too large for its kind, a truth value that is none, and a
timestamp that is none or is a mapping. -/
inductive Unforeseen : ScalarFault → Prop where
  | emptyNumber : Unforeseen (.number .empty)
  | largeNumber : Unforeseen (.number .tooLarge)
  | truthValue (text : String) : Unforeseen (.noTruthValue text)
  | timestamp : Unforeseen .noTimestamp
  | timestampOfMapping : Unforeseen .timestampOfMapping

/-- The faults that end a run are those that no program tolerates. -/
theorem unforeseen_iff {e : ScalarFault} :
    Unforeseen e ↔ toleratesScalar e = false := by
  constructor
  · intro h
    cases h <;> rfl
  · intro h
    unfold toleratesScalar at h
    split at h
    · exact .emptyNumber
    · exact .largeNumber
    · cases h
    · cases h
    · exact .truthValue _
    · exact .timestamp
    · exact .timestampOfMapping

-- ================================================================= reading

section

variable [Packages]

/-- The file holds a document with these settings. -/
def Gives (t : FileTree) (s : Settings) : Prop :=
  ∃ bytes d, t.read (path t.home) = .ok bytes
    ∧ Packages.document bytes = .ok d ∧ Holds t d s

/-- The file ends the run: it is a directory, or it holds a scalar whose
failure is unforeseen, asks for a character whose number is huge, or has
collections too deep inside each other. -/
inductive EndsRun (t : FileTree) : Prop where
  | directory (h : t.find? (path t.home) = some .directory)
  | scalar (bytes : ByteArray) (e : ScalarFault)
    (hbytes : t.read (path t.home) = .ok bytes)
    (h : Packages.document bytes = .error (.scalar e)) (he : Unforeseen e)
  | character (bytes : ByteArray) (number : Nat)
    (hbytes : t.read (path t.home) = .ok bytes)
    (h : Packages.document bytes = .error (.noCharacter number))
    (hnumber : 0x7FFFFFFF < number)
  | depth (bytes : ByteArray) (hbytes : t.read (path t.home) = .ok bytes)
    (h : Packages.document bytes = .error .tooDeep)

/-- Without a file there is nothing to load. -/
theorem load_of_find_none (h : t.find? (path t.home) = none) :
    load t = .error (.missing (path t.home)) := by
  have hhas : t.has (path t.home) = false := by rw [FileTree.has, h]; rfl
  simp [load, hhas]

/-- A file is loaded by its document. -/
theorem load_of_find_some {entry : FileTree.Entry}
    (h : t.find? (path t.home) = some entry) :
    load t = (readDocument t (path t.home)).mapError .noDocument
      >>= ofDocument t := by
  have hhas : t.has (path t.home) = true := by rw [FileTree.has, h]; rfl
  simp [load, hhas]

/-- Loading succeeds with the settings that the file gives. -/
theorem load_eq_ok_iff : load t = .ok s ↔ Gives t s := by
  cases hfind : t.find? (path t.home) with
  | none =>
    rw [load_of_find_none hfind]
    constructor
    · nofun
    · rintro ⟨bytes, d, hbytes, -⟩
      rw [FileTree.read_eq_ok_iff, hfind] at hbytes
      cases hbytes
  | some entry =>
    rw [load_of_find_some hfind]
    simp only [bind_eq_ok_iff, mapError_eq_ok_iff, readDocument_eq_ok_iff,
      ofDocument_eq_ok_iff]
    constructor
    · rintro ⟨d, ⟨bytes, hbytes, hd⟩, hs⟩
      exact ⟨bytes, d, hbytes, hd, hs⟩
    · rintro ⟨bytes, d, hbytes, hd, hs⟩
      exact ⟨d, ⟨bytes, hbytes, hd⟩, hs⟩

/-- A file ends the run by what its reader reports. -/
theorem endsRun_of_document {bytes : ByteArray} {fault : DocumentError}
    (hbytes : t.read (path t.home) = .ok bytes)
    (hfault : Packages.document bytes = .error fault)
    (hfatal : (LoadError.noDocument fault).isTolerable = false) :
    EndsRun t := by
  cases fault with
  | file e => exact absurd hfault (Packages.document_ne_file bytes e)
  | encoding d => cases hfatal
  | malformed detail => cases hfatal
  | noCharacter number =>
    refine .character bytes number hbytes hfault ?_
    simpa [LoadError.isTolerable, isHugeNumber] using hfatal
  | tooDeep => exact .depth bytes hbytes hfault
  | scalar e => exact .scalar bytes e hbytes hfault (unforeseen_iff.2 hfatal)

/-- A fault of the document is handed on as it is. -/
theorem load_of_readDocument_error {entry : FileTree.Entry}
    {fault : DocumentError} (hfind : t.find? (path t.home) = some entry)
    (h : readDocument t (path t.home) = .error fault) :
    load t = .error (.noDocument fault) := by
  rw [load_of_find_some hfind, h]
  rfl

theorem load_of_document_error {bytes : ByteArray} {fault : DocumentError}
    (hbytes : t.read (path t.home) = .ok bytes)
    (h : Packages.document bytes = .error fault) :
    load t = .error (.noDocument fault) := by
  refine load_of_readDocument_error (FileTree.read_eq_ok_iff.1 hbytes) ?_
  rw [readDocument_of_read hbytes, h]

/-- Loading fails beyond what a program waits for if the file ends the run. -/
theorem load_intolerable_iff :
    (∃ e, load t = .error e ∧ e.isTolerable = false) ↔ EndsRun t := by
  constructor
  · rintro ⟨e, he, hfatal⟩
    cases hfind : t.find? (path t.home) with
    | none =>
      rw [load_of_find_none hfind] at he
      cases he
      cases hfatal
    | some entry =>
      rw [load_of_find_some hfind, bind_eq_error_iff,
        mapError_eq_error_iff] at he
      rcases he with ⟨fault, hfault, rfl⟩ | ⟨d, -, he⟩
      · cases entry with
        | directory => exact .directory hfind
        | file bytes =>
          have hbytes := FileTree.read_eq_ok_iff.2 hfind
          rw [readDocument_of_read hbytes] at hfault
          exact endsRun_of_document hbytes hfault hfatal
      -- faults of the fields are all waited for
      · rw [(warns_of_ofDocument he).tolerable] at hfatal
        cases hfatal
  · intro h
    cases h with
    | directory h =>
      refine ⟨.noDocument (.file ⟨.isDirectory, path t.home⟩),
        load_of_readDocument_error h ?_, rfl⟩
      rw [readDocument, FileTree.read_of_find_directory h]
      rfl
    | scalar bytes e hbytes h he =>
      exact ⟨_, load_of_document_error hbytes h, unforeseen_iff.1 he⟩
    | character bytes number hbytes h hnumber =>
      refine ⟨_, load_of_document_error hbytes h, ?_⟩
      simpa [LoadError.isTolerable, isHugeNumber] using hnumber
    | depth bytes hbytes h =>
      exact ⟨_, load_of_document_error hbytes h, rfl⟩

-- ================================================================ outcomes

omit [Packages] in
/-- The log line of a file that gives no settings. -/
def ignoredLine (t : FileTree) (e : LoadError) : LogLine :=
  ⟨.warning, "lql.config",
    "Ignoring malformed config " ++ path t.home ++ ": " ++ e.message⟩

/-- A failure with a file there is warned of, or it ends the run. -/
theorem warns_or_endsRun {entry : FileTree.Entry} {e : LoadError}
    (hfind : t.find? (path t.home) = some entry)
    (hload : load t = .error e) : e.Warns ∨ e.isTolerable = false := by
  rw [load_of_find_some hfind, bind_eq_error_iff, mapError_eq_error_iff]
    at hload
  rcases hload with ⟨fault, -, rfl⟩ | ⟨d, -, h⟩
  · cases htolerable : (LoadError.noDocument fault).isTolerable with
    | false => exact .inr rfl
    | true => exact .inl ⟨htolerable, nofun⟩
  · exact .inl (warns_of_ofDocument h)

/-- After a failure with a warning there are the defaults. -/
theorem loadOrDefault_of_warns {e : LoadError} (hload : load t = .error e)
    (h : e.Warns) : loadOrDefault t = (.ok default, [ignoredLine t e]) := by
  unfold loadOrDefault
  rw [hload]
  split
  · next h' => cases h'
  · next p h' => exact absurd (Except.error.inj h') (h.present p)
  · next e' _ h' =>
    cases h'
    rw [if_pos h.tolerable]
    rfl

/-- After any other failure there is nothing. -/
theorem loadOrDefault_of_fatal {e : LoadError} (hload : load t = .error e)
    (h : e.isTolerable = false) : loadOrDefault t = (.error e, []) := by
  unfold loadOrDefault
  rw [hload]
  split
  · next h' => cases h'
  · next p h' => cases h'; cases h
  · next e' _ h' =>
    cases h'
    rw [if_neg (by rw [h]; nofun)]

/-- Without a file the settings are the defaults, and nothing is logged. A
file that gives settings gives just these, with nothing logged either. Any
other file gives the defaults and one warning, unless it ends the run: then
there are no settings and there is no warning. -/
theorem loadOrDefault_of_file (t : FileTree) :
    (t.has (path t.home) = false ∧ loadOrDefault t = (.ok default, [])) ∨
    (∃ s, Gives t s ∧ loadOrDefault t = (.ok s, [])) ∨
    (t.has (path t.home) = true ∧ (¬ ∃ s, Gives t s) ∧ ¬ EndsRun t
      ∧ ∃ e, load t = .error e
        ∧ loadOrDefault t = (.ok default, [ignoredLine t e])) ∨
    (EndsRun t ∧ ∃ e, load t = .error e
      ∧ loadOrDefault t = (.error e, [])) := by
  cases hload : load t with
  | ok s =>
    have hgives := load_eq_ok_iff.1 hload
    have hloaded : loadOrDefault t = (.ok s, []) := by
      unfold loadOrDefault
      rw [hload]
    exact .inr (.inl ⟨s, hgives, hloaded⟩)
  | error e =>
    have hgives : ¬ ∃ s, Gives t s := by
      rintro ⟨s, hs⟩
      rw [load_eq_ok_iff.2 hs] at hload
      cases hload
    have hends : EndsRun t ↔ e.isTolerable = false := by
      rw [← load_intolerable_iff, hload]
      simp
    cases hfind : t.find? (path t.home) with
    | none =>
      have hhas : t.has (path t.home) = false := by
        rw [FileTree.has, hfind]
        rfl
      have hloaded : loadOrDefault t = (.ok default, []) := by
        unfold loadOrDefault
        rw [load_of_find_none hfind]
      exact .inl ⟨hhas, hloaded⟩
    | some entry =>
      have hhas : t.has (path t.home) = true := by
        rw [FileTree.has, hfind]
        rfl
      rcases warns_or_endsRun hfind hload with hwarns | hfatal
      · have hends' : ¬ EndsRun t := by
          rw [hends, hwarns.tolerable]
          nofun
        exact .inr (.inr (.inl ⟨hhas, hgives, hends', e, rfl,
          loadOrDefault_of_warns hload hwarns⟩))
      · exact .inr (.inr (.inr ⟨hends.2 hfatal, e, rfl,
          loadOrDefault_of_fatal hload hfatal⟩))

end

-- Of a file with one bad entry not even the good ones are taken over.
example :
    let t : FileTree := ⟨"/home", [], [],
      [(["home", ".config", "lql", "lql.yml"],
        .file "extra_functions: [f]\nstyles: 3\n".toUTF8)], none⟩
    (loadOrDefault t).1 = .ok default := by
  decide +kernel

/-- A directory in the place of the file ends the run: there are neither
settings nor a warning. -/
theorem loadOrDefault_directory :
    let t : FileTree := ⟨"/home", [], [], [(["home"], .directory),
      (["home", ".config"], .directory),
      (["home", ".config", "lql"], .directory),
      (["home", ".config", "lql", "lql.yml"], .directory)], none⟩
    loadOrDefault t = (.error (.noDocument
      (.file ⟨.isDirectory, "/home/.config/lql/lql.yml"⟩)), []) := by
  decide +kernel

end Settings

end LogQuery
