/-
What the entries of a list become.

Two readers make names out of signatures: the one of function lists and the
one of reference pages. Both cut signatures at the first parenthesis and trim
them, but they leave out empty names at different times. A page drops names
that are empty; a list drops signatures that are blank. So the two differ on a
signature that has nothing in front of its parenthesis (`isNameless_iff`). A
list with such an entry has the empty name in it, which is lost when the
names are saved and loaded again. All other names of a list are those that a
page would give, and are kept.
-/
import LogQuery.Proofs.ReferencePage.Names

namespace LogQuery

open Text Yaml

-- =================================================================== texts

namespace Text

theorem trimList_cons_of_blank {c : Char} (hc : isBlank c = true)
    (cs : List Char) : trimList (c :: cs) = trimList cs := by
  rw [trimList_eq, trimList_eq, List.dropWhile_cons_of_pos hc]

theorem trimList_cons_ne_nil {c : Char} (hc : isBlank c = false)
    (cs : List Char) : trimList (c :: cs) ≠ [] := by
  rw [trimList_eq, List.dropWhile_cons_of_neg (by simp [hc]), Ne,
    List.rdropWhile_eq_nil_iff]
  intro hall
  rw [hall c List.mem_cons_self] at hc
  cases hc

/-- A text is blank if nothing is left when white space is dropped. -/
theorem trim_eq_empty_iff {s : String} :
    trim s = "" ↔ (s.toList.dropWhile isBlank).head? = none := by
  rw [trim, String.ofList_eq_empty_iff]
  induction s.toList with
  | nil => simp [trimList]
  | cons c cs ih =>
    cases hc : isBlank c with
    | true => rw [trimList_cons_of_blank hc, ih, List.dropWhile_cons_of_pos hc]
    | false => simp [trimList_cons_ne_nil hc, hc]

end Text

namespace FunctionList

variable {t : FileTree} {path : String} {names : NameSet} {s n : String}

/-- The name in a signature is empty if the signature is blank or if white
space at most stands in front of its parenthesis. -/
theorem nameOf_eq_empty_iff :
    nameOf s = ""
      ↔ ∀ c ∈ (s.toList.dropWhile isBlank).head?, c = '(' := by
  rw [nameOf, String.ofList_eq_empty_iff]
  induction s.toList with
  | nil => simp [trimList]
  | cons c cs ih =>
    cases hc : isBlank c with
    | true =>
      have hparen : c ≠ '(' := by
        rintro rfl
        exact absurd hc (by decide)
      rw [List.takeWhile_cons_of_pos (by simpa using hparen),
        trimList_cons_of_blank hc, ih, List.dropWhile_cons_of_pos hc]
    | false =>
      rw [List.dropWhile_cons_of_neg (by simp [hc])]
      by_cases hparen : c = '('
      · simp [hparen, trimList]
      · simp [hparen, trimList_cons_ne_nil hc]

/-- In front of the parenthesis of the signature stands nothing but white
space. -/
def IsNameless (s : String) : Prop :=
  (s.toList.dropWhile isBlank).head? = some '('

/-- A signature that is not blank has an empty name if it is nameless. -/
theorem isNameless_iff : IsNameless s ↔ trim s ≠ "" ∧ nameOf s = "" := by
  rw [Ne, trim_eq_empty_iff, nameOf_eq_empty_iff, IsNameless]
  cases (s.toList.dropWhile isBlank).head? with
  | none => simp
  | some c => simp

-- ================================================================= entries

/-- The path leads to a list of these entries. -/
def Lists (t : FileTree) (path : String) (entries : List String) : Prop :=
  ∃ file bytes text document, t.expandHome path = .ok file
    ∧ t.read file = .ok bytes ∧ decodeFile bytes = .ok text
    ∧ Document.ofText text = .ok document
    ∧ items? document = some (entries.map .text)

theorem listed_eq_ok {bytes : ByteArray} (h : listed path bytes = .ok names) :
    ∃ text document entries, decodeFile bytes = .ok text
      ∧ Document.ofText text = .ok document
      ∧ items? document = some (entries.map .text)
      ∧ namesOf entries = names := by
  have hcases := listed_cases path bytes
  rw [h] at hcases
  cases hcases with
  | names document entries hd hitems =>
    obtain ⟨text, htext, hdocument⟩ := ofBytes_eq_ok_iff.1 hd
    exact ⟨text, document, entries, htext, hdocument, hitems, rfl⟩

/-- What is loaded are the names of the entries of a list. -/
theorem load_eq_ok (h : load t path = .ok names) :
    ∃ entries, Lists t path entries ∧ namesOf entries = names := by
  cases hfile : t.expandHome path with
  | error e =>
    simp [load, hfile, Except.mapError, bind, Except.bind] at h
  | ok file =>
    cases hbytes : t.read file with
    | error e =>
      obtain ⟨e, he, -⟩ := load_of_unread hfile hbytes
      rw [he] at h
      cases h
    | ok bytes =>
      rw [load_of_read hfile hbytes] at h
      obtain ⟨text, document, entries, htext, hdocument, hitems, hnames⟩ :=
        listed_eq_ok h
      exact ⟨entries, ⟨file, bytes, text, document, hfile, hbytes, htext,
        hdocument, hitems⟩, hnames⟩

theorem isBare_of_mem_namesOf {entries : List String}
    (h : n ∈ namesOf entries) : IsBare n := by
  obtain ⟨s, -, -, rfl⟩ := mem_namesOf.1 h
  exact isBare_nameOf s

theorem empty_mem_namesOf_iff {entries : List String} :
    "" ∈ namesOf entries ↔ ∃ e ∈ entries, IsNameless e := by
  simp only [mem_namesOf, isNameless_iff]

/-- But for the empty name, the names of a list are those that a page with the
same signatures would give. -/
theorem mem_namesOf_and_ne_empty_iff {entries : List String} :
    n ∈ namesOf entries ∧ n ≠ ""
      ↔ n ∈ ReferencePage.distinct (entries.map nameOf) := by
  rw [ReferencePage.mem_distinct, List.mem_map, mem_namesOf]
  refine and_congr_left fun hne => ?_
  constructor
  · rintro ⟨e, he, -, hname⟩
    exact ⟨e, he, hname⟩
  · rintro ⟨e, he, hname⟩
    refine ⟨e, he, fun hblank => hne ?_, hname⟩
    -- a blank signature has an empty name
    rw [← hname, nameOf_eq_empty_iff, trim_eq_empty_iff.1 hblank]
    rintro c ⟨⟩

/-- Bare names that are saved are loaded again, but for the empty name. -/
theorem exists_load_of_save {u u' : FileTree} (hbare : ∀ n ∈ names, IsBare n)
    (h : save u names path = (.ok (), u')) :
    ∃ loaded, load u' path = .ok loaded
      ∧ ∀ n, n ∈ loaded ↔ n ∈ names ∧ n ≠ "" := by
  have hnames : NameSet.ofList names.toList = names :=
    NameSet.ext fun n => NameSet.mem_ofList
  rw [← hnames] at h
  refine ⟨_, load_of_save h, fun n => ?_⟩
  rw [mem_namesOf]
  constructor
  · rintro ⟨s, hs, hvisible, rfl⟩
    have hbare := hbare s hs
    rw [trim_of_trimmed hbare.trimmed] at hvisible
    rw [nameOf_of_bare hbare]
    exact ⟨hs, hvisible⟩
  · rintro ⟨hn, hne⟩
    have hbare := hbare n hn
    rw [← trim_of_trimmed hbare.trimmed] at hne
    exact ⟨n, hn, hne, nameOf_of_bare hbare⟩

/-- The names that are loaded from a list are bare. But for the empty name they
are those that a page with the same signatures would give, and they are loaded
again when they have been saved. The empty name is among them exactly if some
entry of the list has nothing but white space in front of its parenthesis; only
then is less loaded than was saved. -/
theorem loaded_names_are_bare (h : load t path = .ok names) :
    ∃ entries, Lists t path entries
      ∧ (∀ n ∈ names, IsBare n)
      ∧ (∀ n, n ∈ names ∧ n ≠ ""
        ↔ n ∈ ReferencePage.distinct (entries.map nameOf))
      ∧ ("" ∈ names ↔ ∃ e ∈ entries, IsNameless e)
      ∧ ∀ u u' path', save u names path' = (.ok (), u') →
        ∃ loaded, load u' path' = .ok loaded
          ∧ (∀ n, n ∈ loaded ↔ n ∈ names ∧ n ≠ "")
          ∧ (loaded = names ↔ "" ∉ names) := by
  obtain ⟨entries, hentries, rfl⟩ := load_eq_ok h
  have hbare : ∀ n ∈ namesOf entries, IsBare n :=
    fun n => isBare_of_mem_namesOf
  refine ⟨entries, hentries, hbare, fun n => mem_namesOf_and_ne_empty_iff,
    empty_mem_namesOf_iff, fun u u' path' hsave => ?_⟩
  obtain ⟨loaded, hload, hmem⟩ := exists_load_of_save hbare hsave
  refine ⟨loaded, hload, hmem, fun hsame hempty => ?_, fun hempty => ?_⟩
  · rw [← hsame] at hempty
    exact ((hmem "").1 hempty).2 rfl
  · refine NameSet.ext fun n => (hmem n).trans (and_iff_left_of_imp ?_)
    rintro hn rfl
    exact hempty hn

/-- A list with a signature, a blank entry and a name twice. -/
theorem loaded_names_are_bare_count :
    let t : FileTree := ⟨"/home", [], [],
      [(["f.yml"], .file "- count ( x )\n- ' '\n- top\n- top()\n".toUTF8)],
      none⟩
    load t "f.yml" = .ok (.ofList ["count", "top"])
      ∧ ∃ entries, Lists t "f.yml" entries
        ∧ (∀ n, n ∈ NameSet.ofList ["count", "top"] ∧ n ≠ ""
          ↔ n ∈ ReferencePage.distinct (entries.map nameOf))
        ∧ ∃ loaded, load (save t (.ofList ["count", "top"]) "g.yml").2 "g.yml"
            = .ok loaded ∧ loaded = .ofList ["count", "top"] := by
  intro t
  have hload : load t "f.yml" = .ok (.ofList ["count", "top"]) := by
    decide +kernel
  obtain ⟨entries, hentries, -, hnames, -, hagain⟩ :=
    loaded_names_are_bare hload
  have hsave : save t (.ofList ["count", "top"]) "g.yml"
      = (.ok (), (save t (.ofList ["count", "top"]) "g.yml").2) :=
    Prod.ext (by decide +kernel) rfl
  obtain ⟨loaded, hloaded, -, hsame⟩ := hagain _ _ _ hsave
  refine ⟨hload, entries, hentries, hnames, loaded, hloaded, hsame.2 ?_⟩
  rw [NameSet.mem_ofList]
  decide

/-- A signature without a name gives the empty name, which a page would leave
out, and which is lost when it is saved and loaded again. -/
theorem loaded_names_empty :
    let t : FileTree :=
      ⟨"/home", [], [], [(["f.yml"], .file "- (x)\n".toUTF8)], none⟩
    load t "f.yml" = .ok (.ofList [""])
      ∧ Lists t "f.yml" ["(x)"]
      ∧ ReferencePage.distinct (["(x)"].map nameOf) = []
      ∧ (save t (.ofList [""]) "g.yml").1 = .ok ()
      ∧ load (save t (.ofList [""]) "g.yml").2 "g.yml" = .ok .empty := by
  intro t
  have hload : load t "f.yml" = .ok (.ofList [""]) := by decide +kernel
  have hlists : Lists t "f.yml" ["(x)"] := by
    refine ⟨"f.yml", "- (x)\n".toUTF8, "- (x)\n",
      ⟨.collection 0, [(0, .list [.text "(x)"])]⟩, ?_⟩
    decide +kernel
  exact ⟨hload, hlists, by decide +kernel, by decide +kernel,
    by decide +kernel⟩

end FunctionList

end LogQuery
