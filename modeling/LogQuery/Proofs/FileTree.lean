/-
What writing leaves in a tree.

Writing changes one entry at a time, and never one that is a directory. A
path goes through directories only, so it leads where it led before, and a
file that was written is read back (`read_of_writeText`). Homes and the
working directory stay what they are (`Keeps`).

A file that can not be opened leaves the tree as it was, but for directories
that were made for it (`AddsDirectories`). Once it is open its old content is
gone: what it holds then is the text, or as much of it as the disk has taken
(`writeText_of_openText`). No other file changes.
-/
import Mathlib.Tactic.SplitIfs
import LogQuery.FileTree

namespace LogQuery.FileTree

variable {t t' t'' : FileTree}

-- ================================================================= entries

/-- The entry that was set. The root stays a directory. -/
theorem entry_setEntry_self {l : Location} (hl : l ≠ []) (e : Entry) :
    entry? (t.setEntry l e) l = some e := by
  simp [ entry?, setEntry, hl]

/-- The other entries. -/
theorem entry_setEntry_of_ne {l m : Location} (hne : m ≠ l) (e : Entry) :
    entry? (t.setEntry l e) m = t.entry? m := by
  unfold entry? setEntry
  split
  · rfl
  · rw [List.lookup_cons, beq_false_of_ne hne]
    dsimp only
    induction t.entries with
    | nil => rfl
    | cons x entries ih =>
      obtain ⟨k, f⟩ := x
      by_cases hk : k = l
      · have hmk : m ≠ k := fun h => hne (h.trans hk)
        rw [List.filter_cons_of_neg (by simpa using hk), ih,
          List.lookup_cons, beq_false_of_ne hmk]
      · rw [List.filter_cons_of_pos (by simpa using hk), List.lookup_cons,
          List.lookup_cons, ih]

-- ================================================================= keeping

/-- `t'` has the homes, the working directory and the directories of `t`. -/
structure Keeps (t t' : FileTree) : Prop where
  home : t'.home = t.home
  accounts : t'.accounts = t.accounts
  workingDirectory : t'.workingDirectory = t.workingDirectory
  directory : ∀ l, t.entry? l = some .directory →
    t'.entry? l = some .directory

theorem Keeps.refl (t : FileTree) : Keeps t t :=
  ⟨rfl, rfl, rfl, fun _ h => h⟩

theorem Keeps.trans (h : Keeps t t') (h' : Keeps t' t'') : Keeps t t'' :=
  ⟨h'.home.trans h.home, h'.accounts.trans h.accounts,
    h'.workingDirectory.trans h.workingDirectory,
    fun l hl => h'.directory l (h.directory l hl)⟩

/-- Setting an entry that is no directory keeps the tree. -/
theorem keeps_setEntry {l : Location} (hl : t.entry? l ≠ some .directory)
    (e : Entry) : Keeps t (t.setEntry l e) := by
  refine ⟨rfl, rfl, rfl, fun m hm => ?_⟩
  have hne : m ≠ l := fun h => hl (h ▸ hm)
  rw [entry_setEntry_of_ne hne, hm]

/-- A way through directories stays. -/
theorem Keeps.walk (h : Keeps t t') {names : List String} {l m : Location}
    (hwalk : t.walk l names = .ok m) : t'.walk l names = .ok m := by
  induction names generalizing l with
  | nil => exact hwalk
  | cons name names ih =>
    unfold FileTree.walk at hwalk ⊢
    cases hl : t.entry? l with
    | none => rw [hl] at hwalk; cases hwalk
    | some e =>
      cases e with
      | file bytes => rw [hl] at hwalk; cases hwalk
      | directory =>
        -- `t'` has the directory too, and goes on in the same way
        rw [hl] at hwalk
        rw [h.directory l hl]
        dsimp only at hwalk ⊢
        split_ifs at hwalk ⊢
        · exact ih hwalk
        · exact ih hwalk
        · exact ih hwalk

/-- A path that leads somewhere leads there still. -/
theorem Keeps.locate (h : Keeps t t') {path : String} {l : Location}
    (hl : t.locate path = .ok l) : t'.locate path = .ok l := by
  unfold FileTree.locate at hl ⊢
  rw [h.workingDirectory]
  dsimp only at hl ⊢
  generalize (if path.startsWith "/" then [] else t.workingDirectory)
    = start at hl ⊢
  split_ifs at hl ⊢
  cases hwalk : t.walk start (Path.names path) with
  | error e => rw [hwalk] at hl; cases hl
  | ok m => rw [h.walk hwalk, ← hl, hwalk]

/-- Homes stay where they are. -/
theorem Keeps.expandHome (h : Keeps t t') (path : String) :
    t'.expandHome path = t.expandHome path := by
  unfold FileTree.expandHome
  rw [h.home, h.accounts]

-- ================================================================= reading

/-- A file is read if the path leads to it. -/
theorem read_eq_ok_iff {path : String} {bytes : ByteArray} :
    t.read path = .ok bytes ↔ t.find? path = some (.file bytes) := by
  unfold read find?
  cases t.locate path with
  | error e => exact ⟨nofun, nofun⟩
  | ok l =>
    dsimp only [bind, Except.bind]
    split
    · next h => rw [h]; exact ⟨nofun, nofun⟩
    · next h => rw [h]; exact ⟨nofun, nofun⟩
    · next bytes' h =>
      rw [h]
      constructor
      · intro h; cases h; rfl
      · intro h; cases h; rfl

/-- A directory is not read. -/
theorem read_of_find_directory {path : String}
    (h : t.find? path = some .directory) :
    t.read path = .error ⟨.isDirectory, path⟩ := by
  unfold find? at h
  unfold read
  cases hl : t.locate path with
  | error e => rw [hl] at h; cases h
  | ok l =>
    rw [hl] at h
    dsimp only at h
    dsimp only [bind, Except.bind]
    rw [h]

/-- What is at a place of `t'` was there in `t`, or it is a directory where
nothing was. -/
def KeptOrNew (t t' : FileTree) (l : Location) : Prop :=
  t'.entry? l = t.entry? l
    ∨ t.entry? l = none ∧ t'.entry? l = some .directory

/-- `t'` is `t` with new directories, if any: no file is new and none has
changed. -/
structure AddsDirectories (t t' : FileTree) : Prop where
  home : t'.home = t.home
  accounts : t'.accounts = t.accounts
  workingDirectory : t'.workingDirectory = t.workingDirectory
  room : t'.room? = t.room?
  entry : ∀ l, KeptOrNew t t' l

theorem AddsDirectories.refl (t : FileTree) : AddsDirectories t t :=
  ⟨rfl, rfl, rfl, rfl, fun _ => .inl rfl⟩

theorem AddsDirectories.trans (h : AddsDirectories t t')
    (h' : AddsDirectories t' t'') : AddsDirectories t t'' := by
  refine ⟨h'.home.trans h.home, h'.accounts.trans h.accounts,
    h'.workingDirectory.trans h.workingDirectory, h'.room.trans h.room,
    fun l => ?_⟩
  rcases h'.entry l with hkept' | ⟨hnone', hnew'⟩
  · rcases h.entry l with hkept | ⟨hnone, hnew⟩
    · exact .inl (hkept'.trans hkept)
    · exact .inr ⟨hnone, hkept'.trans hnew⟩
  · rcases h.entry l with hkept | ⟨hnone, hnew⟩
    · exact .inr ⟨hkept.symm.trans hnone', hnew'⟩
    · rw [hnew] at hnone'
      cases hnone'

/-- Adding directories keeps what is there. -/
theorem AddsDirectories.keeps (h : AddsDirectories t t') : Keeps t t' := by
  refine ⟨h.home, h.accounts, h.workingDirectory, fun l hl => ?_⟩
  rcases h.entry l with hkept | ⟨hnone, -⟩
  · exact hkept.trans hl
  · rw [hl] at hnone
    cases hnone

/-- Making a directory adds it and nothing else. -/
theorem addsDirectories_makeDirectory {path : String}
    (h : t.makeDirectory path = .ok t') : AddsDirectories t t' := by
  unfold makeDirectory at h
  cases hl : t.locate path with
  | error e => rw [hl] at h; cases h
  | ok l =>
    rw [hl] at h
    dsimp only [bind, Except.bind] at h
    split at h
    · cases h
    · next hnone =>
      cases h
      -- the root is there, so the new directory is not the root
      have hroot : l ≠ [] := fun hl => by simp [ entry?, hl] at hnone
      refine ⟨rfl, rfl, rfl, rfl, fun m => ?_⟩
      by_cases hm : m = l
      · subst hm
        exact .inr ⟨hnone, entry_setEntry_self hroot _⟩
      · exact .inl (entry_setEntry_of_ne hm _)

/-- And so does making sure of one. -/
theorem addsDirectories_ensureDirectory {path : String}
    (h : t.ensureDirectory path = .ok t') : AddsDirectories t t' := by
  unfold ensureDirectory at h
  split at h
  · next hmake => cases h; exact addsDirectories_makeDirectory hmake
  · split at h
    · cases h; exact .refl t
    · cases h

theorem addsDirectories_made (t : FileTree) (path : String) :
    AddsDirectories t (ensureDirectories.made t path).2 := by
  unfold ensureDirectories.made
  split
  · next h => exact addsDirectories_ensureDirectory h
  · exact .refl t

/-- Making directories adds nothing else, also if it fails halfway. -/
theorem addsDirectories_ensureDirectories (t : FileTree) (depth : Nat)
    (path : String) :
    AddsDirectories t (t.ensureDirectories depth path).2 := by
  induction depth generalizing path with
  | zero => exact .refl t
  | succ depth ih =>
    unfold ensureDirectories
    extract_lets last above
    -- what lies around the directory is made first, and one step less deep
    have habove : AddsDirectories t above.2 := by
      unfold above
      split
      · exact ih last.1
      · exact .refl t
    generalize above = result at habove
    obtain ⟨e | _, t'⟩ := result
    · dsimp only
      split
      · exact habove.trans (addsDirectories_made t' path)
      · exact habove
    · exact habove.trans (addsDirectories_made t' path)

-- ================================================================= writing

/-- Where there is room, the disk takes every byte. -/
theorem taken_of_hasRoom {bytes : ByteArray}
    (h : t.hasRoom bytes.size = true) : t.taken bytes = bytes := by
  unfold hasRoom at h
  unfold taken
  cases hroom : t.room? with
  | none => rfl
  | some room =>
    have hsize : bytes.size ≤ room := by simpa [hroom] using h
    refine ByteArray.ext ?_
    simp
    omega

/-- Opening a file adds directories at most, also if it fails. -/
theorem addsDirectories_openText (t : FileTree) (path : String) :
    AddsDirectories t (t.openText path).2 := by
  unfold openText
  extract_lets parent ready
  have hready : AddsDirectories t ready.2 := by
    unfold ready
    split
    · exact .refl t
    · exact addsDirectories_ensureDirectories t _ parent
  generalize ready = result at hready
  obtain ⟨e | _, t₁⟩ := result
  · exact hready
  · dsimp only
    split
    · exact hready
    · split
      · exact hready
      · exact hready

/-- A file is opened where the path leads to, unless a directory is there. -/
theorem openText_eq_ok {path : String} {l : Location}
    (h : t.openText path = (.ok l, t')) :
    t'.locate path = .ok l ∧ t'.entry? l ≠ some .directory := by
  unfold openText at h
  extract_lets parent ready at h
  generalize ready = result at h
  obtain ⟨e | _, t₁⟩ := result
  · cases h
  · dsimp only at h
    cases hl : t₁.locate path with
    | error e => rw [hl] at h; cases h
    | ok m =>
      rw [hl] at h
      dsimp only at h
      split at h
      · cases h
      · next hdirectory =>
        cases h
        exact ⟨hl, hdirectory⟩

/-- What is written to a file that is opened: all of it or a first part. -/
theorem writeText_of_openText {path : String} {l : Location}
    {ready : FileTree} (h : t.openText path = (.ok l, ready))
    (text : String) :
    t.writeText path text
      = (if ready.hasRoom text.toUTF8.size then .ok ()
          else .error ⟨.noSpace, path⟩,
        ready.setEntry l (.file (ready.taken text.toUTF8))) := by
  unfold writeText
  rw [h]

/-- Nothing is written to a file that is not opened. -/
theorem writeText_of_not_openText {path text : String} {e : FileError}
    {ready : FileTree} (h : t.openText path = (.error e, ready)) :
    t.writeText path text = (.error e, ready) := by
  unfold writeText
  rw [h]

/-- A text that was written was written to a file that was opened, and there
was room for it. -/
theorem writeText_eq_ok {path text : String}
    (h : t.writeText path text = (.ok (), t')) :
    ∃ l ready, t.openText path = (.ok l, ready)
      ∧ t' = ready.setEntry l (.file text.toUTF8) := by
  cases hopen : t.openText path with
  | mk result ready =>
    cases result with
    | error e =>
      rw [writeText_of_not_openText hopen] at h
      cases h
    | ok l =>
      rw [writeText_of_openText hopen text] at h
      split at h
      · next hroom =>
        cases h
        exact ⟨l, ready, rfl, by rw [taken_of_hasRoom hroom]⟩
      · cases h

/-- Writing to an opened file keeps the tree, and the path leads to the
file. -/
theorem keeps_setEntry_openText {path : String} {l : Location}
    {ready : FileTree} (h : t.openText path = (.ok l, ready))
    (bytes : ByteArray) :
    Keeps t (ready.setEntry l (.file bytes))
      ∧ (ready.setEntry l (.file bytes)).locate path = .ok l := by
  obtain ⟨hl, hdirectory⟩ := openText_eq_ok h
  have hkeeps := keeps_setEntry hdirectory (.file bytes)
  have hadds : AddsDirectories t ready := by
    have hopen := addsDirectories_openText t path
    rwa [h] at hopen
  exact ⟨hadds.keeps.trans hkeeps, hkeeps.locate hl⟩

/-- The file is the only one that is new or has changed. -/
theorem keptOrNew_setEntry_openText {path : String} {l : Location}
    {ready : FileTree} (h : t.openText path = (.ok l, ready))
    (bytes : ByteArray) :
    entry? (ready.setEntry l (.file bytes)) l = some (.file bytes)
      ∧ ∀ m, m ≠ l → KeptOrNew t (ready.setEntry l (.file bytes)) m := by
  obtain ⟨-, hdirectory⟩ := openText_eq_ok h
  have hadds := addsDirectories_openText t path
  rw [h] at hadds
  have hroot : l ≠ [] := fun hl => hdirectory (by simp [ entry?, hl])
  refine ⟨entry_setEntry_self hroot _, fun m hm => ?_⟩
  have hsame := entry_setEntry_of_ne (t := ready) hm (.file bytes)
  rcases hadds.entry m with hkept | ⟨hnone, hnew⟩
  · exact .inl (hsame.trans hkept)
  · exact .inr ⟨hnone, hsame.trans hnew⟩

/-- Writing a text keeps the tree. -/
theorem keeps_writeText {path text : String}
    (h : t.writeText path text = (.ok (), t')) : Keeps t t' := by
  obtain ⟨l, ready, hopen, rfl⟩ := writeText_eq_ok h
  exact (keeps_setEntry_openText hopen _).1

/-- **A text is read back as it was written.** -/
theorem read_of_writeText {path text : String}
    (h : t.writeText path text = (.ok (), t')) :
    t'.read path = .ok text.toUTF8 := by
  obtain ⟨l, ready, hopen, rfl⟩ := writeText_eq_ok h
  have hl := (keeps_setEntry_openText hopen text.toUTF8).2
  have hentry := (keptOrNew_setEntry_openText hopen text.toUTF8).1
  unfold read
  rw [hl]
  dsimp only [bind, Except.bind]
  rw [hentry]

end LogQuery.FileTree
