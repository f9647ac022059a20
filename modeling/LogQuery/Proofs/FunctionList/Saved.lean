/-
Saved lists load back.

A list that was saved is read back as it was written, whatever its texts
hold, and each of them that is not blank gives the name in it
(`load_of_save`). Bare names, which hold no parenthesis and no white space at
their ends, are the names in themselves (`namesOf_of_bare`).
-/
import LogQuery.Proofs.FileTree
import LogQuery.Proofs.FunctionList.Load
import LogQuery.Proofs.NameSet
import LogQuery.Proofs.Text.Blank
import LogQuery.Proofs.Yaml.BuildList

namespace LogQuery

open Text Yaml

-- =================================================================== texts

namespace Text

/-- Line feeds are line ends already. -/
theorem unifyLineEnds_of_notMem {cs : List Char} (h : '\r' ∉ cs) :
    unifyLineEnds cs = cs := by
  induction cs with
  | nil => rfl
  | cons c cs ih =>
    have hc : c ≠ '\r' := fun hc => h (hc ▸ List.mem_cons_self)
    rw [unifyLineEnds, ih fun hmem => h (List.mem_cons_of_mem c hmem),
      if_neg hc]
    rintro cs rfl
    exact absurd rfl hc

/-- A text without carriage returns is the text of its bytes. -/
theorem decodeFile_toUTF8 {s : String} (h : '\r' ∉ s.toList) :
    decodeFile s.toUTF8 = .ok s := by
  have hdecode : String.fromUTF8? s.toUTF8 = some s :=
    dif_pos s.isValidUTF8
  unfold decodeFile decodeUtf8
  rw [hdecode]
  change Except.ok (String.ofList (unifyLineEnds s.toList)) = _
  rw [unifyLineEnds_of_notMem h, String.ofList_toList]

end Text

-- =============================================================== documents

/-- The document in a file is the one in its text. -/
theorem Yaml.ofBytes_eq_ok_iff {bytes : ByteArray} {d : Document} :
    Document.ofBytes bytes = .ok d
      ↔ ∃ s, decodeFile bytes = .ok s ∧ Document.ofText s = .ok d := by
  unfold Document.ofBytes
  cases hs : decodeFile bytes with
  | error defect => exact ⟨nofun, nofun⟩
  | ok s =>
    dsimp only [Except.mapError, bind, Except.bind]
    cases hd : Document.ofText s with
    | error e =>
      constructor
      · nofun
      · rintro ⟨s', hs', hd'⟩
        cases hs'
        rw [hd] at hd'
        cases hd'
    | ok d' =>
      constructor
      · intro h
        cases h
        exact ⟨s, rfl, hd⟩
      · rintro ⟨s', hs', hd'⟩
        cases hs'
        rw [hd] at hd'
        cases hd'
        rfl

namespace FunctionList

variable {t t' : FileTree} {names : List String} {path : String}

-- =================================================================== names

/-- A text that is a name and nothing else: it holds no parenthesis, and no
white space stands at its ends. -/
structure IsBare (s : String) : Prop where
  unopened : '(' ∉ s.toList
  trimmed : Trimmed s.toList

/-- The name in a signature is bare. -/
theorem isBare_nameOf (s : String) : IsBare (nameOf s) := by
  unfold nameOf
  constructor
  · rw [String.toList_ofList]
    intro hmem
    have hmem := List.mem_takeWhile_imp ((trimList_sublist _).subset hmem)
    simp at hmem
  · rw [String.toList_ofList]
    exact trimmed_trimList _

/-- A bare name is its own signature. -/
theorem nameOf_of_bare {s : String} (h : IsBare s) : nameOf s = s := by
  have hwhole : s.toList.takeWhile (· ≠ '(') = s.toList := by
    rw [List.takeWhile_eq_self_iff]
    intro c hc
    have hne : c ≠ '(' := fun heq => h.unopened (heq ▸ hc)
    simpa using hne
  rw [nameOf, hwhole, trimList_of_trimmed h.trimmed, String.ofList_toList]

-- ================================================================= loading

/-- The names that a list of signatures gives. -/
theorem mem_namesOf {signatures : List String} {n : String} :
    n ∈ namesOf signatures
      ↔ ∃ s ∈ signatures, trim s ≠ "" ∧ nameOf s = n := by
  simp [namesOf, and_assoc]

/-- What a saved list is read as. -/
theorem listed_fileText (path : String) (names : NameSet) :
    listed path (fileText names).toUTF8 = .ok (namesOf names.toList) := by
  have hkey : Writer.Visible "functions".toList :=
    Writer.visible_of_all (by decide)
  have hreturn : '\r' ∉ (fileText names).toList := fun hmem =>
    absurd (Writer.visible_keyedList hkey names.toList _ hmem) (by decide)
  have hitems (d : Document) (hd : d = ⟨.collection 0,
      [(2, .list (names.toList.map .text)),
        (0, .map [(.text "functions", .collection 2)])]⟩) :
      items? d = some (names.toList.map .text) := by
    subst hd
    rfl
  have hdocument : Packages.document (fileText names).toUTF8 = .ok _ :=
    ofBytes_eq_ok_iff.2 ⟨_, decodeFile_toUTF8 hreturn,
      Document.ofText_keyedList names.toList⟩
  exact listed_of_names hdocument (hitems _ rfl)

/-- **A saved list loads back**: as the set of the names in it. -/
theorem load_of_save (h : save t (.ofList names) path = (.ok (), t')) :
    load t' path = .ok (namesOf names) := by
  unfold save at h
  cases hfile : t.expandHome path with
  | error e => rw [hfile] at h; cases h
  | ok file =>
    rw [hfile] at h
    have hkeeps := FileTree.keeps_writeText h
    -- the list is saved in order and without repetitions, which names no others
    have hnames : namesOf (NameSet.ofList names).toList = namesOf names :=
      NameSet.ext fun n => by
        simp only [mem_namesOf, ← NameSet.mem_def, NameSet.mem_ofList]
    rw [load_of_read ((hkeeps.expandHome path).trans hfile)
      (FileTree.read_of_writeText h), listed_fileText, hnames]

/-- Bare names are the names in themselves. -/
theorem namesOf_of_bare (h : ∀ n ∈ names, n ≠ "" ∧ IsBare n) :
    namesOf names = .ofList names := by
  refine NameSet.ext fun n => ?_
  rw [mem_namesOf, NameSet.mem_ofList]
  constructor
  · rintro ⟨s, hs, -, rfl⟩
    rwa [nameOf_of_bare (h s hs).2]
  · intro hn
    obtain ⟨hne, hbare⟩ := h n hn
    exact ⟨n, hn, (trim_of_trimmed hbare.trimmed).symm ▸ hne,
      nameOf_of_bare hbare⟩

end FunctionList

end LogQuery
