/-
How the refreshing of a list goes.

A run that refreshes a list goes through three gates. Names have to come with
a page, the file for them has to be opened, and there has to be room for
them; only then does the output hear of them. A run that does not get through
the second gate has done nothing to any file (`Untouched`). One that does has
emptied the file that it has opened (`Opens`), and how it ends from there on
is told by the disk and the output alone (`Stores`). There is no other way
for a refresh to go (`run_refresh_cases`).
-/
import LogQuery.CommandLine.Run
import LogQuery.Proofs.FileTree

namespace LogQuery

variable [Packages]

-- =================================================================== pages

/-- Names are fetched in two steps: the page comes, and names are on it. -/
theorem ReferencePage.fetch_fst (respond : Request → Response) (r : Request) :
    (fetch respond r).1 = pageOf r.url (respond r) >>= names := by
  unfold fetch namesOf
  split
  · next e h => exact h.symm
  · next found h => exact h.symm

/-- The names that are fetched are those on the page that came. -/
theorem ReferencePage.fetch_eq_ok_iff {respond : Request → Response}
    {r : Request} {names : List String} :
    (fetch respond r).1 = .ok names
      ↔ ∃ page, pageOf r.url (respond r) = .ok page
        ∧ ReferencePage.names page = .ok names := by
  rw [fetch_fst]
  cases pageOf r.url (respond r) with
  | error e =>
    constructor
    · nofun
    · rintro ⟨page, hpage, -⟩
      cases hpage
  | ok page =>
    constructor
    · intro h
      exact ⟨page, rfl, h⟩
    · rintro ⟨page', hpage, h⟩
      cases hpage
      exact h

namespace CommandLine

variable {w : World} {o : Outcome} {output : String} {names : List String}
  {l : Location} {ready : FileTree}

-- ================================================================== saving

/-- The file of a list of names. -/
def listBytes (names : List String) : ByteArray :=
  (FunctionList.fileText (.ofList names)).toUTF8

/-- The file at `output` is opened to be written, at `l`, in a tree with the
directories around it. -/
def OpensAt (t : FileTree) (output : String) (l : Location)
    (ready : FileTree) : Prop :=
  ∃ file, t.expandHome output = .ok file ∧ t.openText file = (.ok l, ready)

omit [Packages] in
/-- What is saved to a file that is opened: all of the list or a first
part. -/
theorem save_of_opensAt {t : FileTree} (h : OpensAt t output l ready)
    (names : List String) :
    ∃ file, FunctionList.save t (.ofList names) output
      = (if t.hasRoom (listBytes names).size then .ok ()
          else .error ⟨.noSpace, file⟩,
        ready.setEntry l (.file (t.taken (listBytes names)))) := by
  obtain ⟨file, hfile, hopen⟩ := h
  have hadds := FileTree.addsDirectories_openText t file
  rw [hopen] at hadds
  have hroom := FileTree.writeText_of_openText
    hopen (FunctionList.fileText (.ofList names))
  refine ⟨file, ?_⟩
  unfold FunctionList.save
  rw [hfile]
  dsimp only
  rw [hroom, FileTree.hasRoom, FileTree.taken, hadds.room]
  rfl

omit [Packages] in
/-- Nothing is saved to a file that is not opened. -/
theorem save_of_not_opensAt {t : FileTree}
    (h : ∀ l ready, ¬ OpensAt t output l ready) (names : NameSet) :
    ∃ e t', FunctionList.save t names output = (.error e, t')
      ∧ t.AddsDirectories t' := by
  unfold FunctionList.save
  cases hfile : t.expandHome output with
  | error e => exact ⟨e, t, rfl, .refl t⟩
  | ok file =>
    dsimp only
    cases hopen : t.openText file with
    | mk result ready =>
      cases result with
      | ok l => exact absurd ⟨file, hfile, hopen⟩ (h l ready)
      | error e =>
        have hadds := FileTree.addsDirectories_openText t file
        rw [hopen] at hadds
        exact ⟨e, ready, FileTree.writeText_of_not_openText hopen, hadds⟩

-- ================================================================= storing

/-- How a run ends that has opened the file for its names: the disk is full
before all of them are written, the output does not hear of them, or all is
well. -/
inductive Stores (w : World) (output : String) (names : List String)
    (l : Location) (ready : FileTree) (o : Outcome) : Prop where
  | cut (hroom : w.files.hasRoom (listBytes names).size = false)
    (hending : o.ending = .exit 1)
    (hfiles : o.files
      = ready.setEntry l (.file (w.files.taken (listBytes names))))
  | unsaid (report : String)
    (hroom : w.files.hasRoom (listBytes names).size = true)
    (hfault : w.outputFault? (wroteText names output) = some report)
    (hending : o.ending = .broken (.print report))
    (hfiles : o.files = ready.setEntry l (.file (listBytes names)))
  | done (hroom : w.files.hasRoom (listBytes names).size = true)
    (hfault : w.outputFault? (wroteText names output) = none)
    (hending : o.ending = .exit 0)
    (hfiles : o.files = ready.setEntry l (.file (listBytes names)))
    (houtput : o.output = wroteText names output)

omit [Packages] in
/-- Neither the log nor the requests tell how the names were stored. -/
theorem Stores.of_eq {o' : Outcome} (h : Stores w output names l ready o)
    (hending : o'.ending = o.ending) (hfiles : o'.files = o.files)
    (houtput : o'.output = o.output) : Stores w output names l ready o' := by
  cases h with
  | cut hroom h hf => exact .cut hroom (hending.trans h) (hfiles.trans hf)
  | unsaid report hroom hfault h hf =>
    exact .unsaid report hroom hfault (hending.trans h) (hfiles.trans hf)
  | done hroom hfault h hf ho =>
    exact .done hroom hfault (hending.trans h) (hfiles.trans hf)
      (houtput.trans ho)

omit [Packages] in
theorem stores_storeNames (h : OpensAt w.files output l ready)
    (names : List String) :
    Stores w output names l ready (storeNames output names w) := by
  obtain ⟨file, hsave⟩ := save_of_opensAt h names
  unfold storeNames
  rw [hsave]
  cases hroom : w.files.hasRoom (listBytes names).size with
  | false => exact .cut hroom rfl rfl
  | true =>
    rw [FileTree.taken_of_hasRoom hroom, if_pos rfl]
    dsimp only
    unfold Outcome.print
    cases hfault : w.outputFault? (wroteText names output) with
    | some report => exact .unsaid report hroom hfault rfl rfl
    | none => exact .done hroom hfault rfl rfl rfl

/-- The run has failed before any file was opened: it leaves new directories
at most. -/
structure Untouched (w : World) (o : Outcome) : Prop where
  ending : o.ending ≠ .exit 0
  files : w.files.AddsDirectories o.files

omit [Packages] in
/-- A run that keeps the files and fails. -/
theorem untouched_of_eq (hending : o.ending ≠ .exit 0)
    (hfiles : o.files = w.files) : Untouched w o := by
  refine ⟨hending, ?_⟩
  rw [hfiles]
  exact .refl _

omit [Packages] in
theorem untouched_storeNames
    (h : ∀ l ready, ¬ OpensAt w.files output l ready)
    (names : List String) :
    Untouched w (storeNames output names w) := by
  obtain ⟨e, t', hsave, hadds⟩ := save_of_not_opensAt h (.ofList names)
  unfold storeNames
  rw [hsave]
  dsimp only
  split
  · exact ⟨nofun, hadds⟩
  · exact ⟨nofun, hadds⟩

-- ============================================================== refreshing

/-- The run `o` in `w` opens the file at `output`, at `l`: it has asked for
one page, and there are names on it. -/
structure Opens (w : World) (o : Outcome) (output : String)
    (names : List String) (l : Location) (ready : FileTree) : Prop where
  scraped : ∃ request page, o.requests = [request]
    ∧ ReferencePage.pageOf request.url (w.respond request) = .ok page
    ∧ ReferencePage.names page = .ok names
  nonempty : names ≠ []
  opened : OpensAt w.files output l ready

/-- A refresh opens its file and stores the names there, or it leaves every
file alone. -/
inductive Refreshes (w : World) (output? : Option String) (o : Outcome) :
    Prop where
  | opens {output : String} {names : List String} {l : Location}
    {ready : FileTree} (houtput : output? = some output)
    (hopens : Opens w o output names l ready)
    (hstores : Stores w output names l ready o)
  | untouched
    (hopens : ∀ output names l ready, output? = some output →
      ¬ Opens w o output names l ready)
    (h : Untouched w o)

/-- Only the names that were fetched by the one request can be opened for. -/
theorem fetch_of_opens {request : ReferencePage.Request}
    (h : Opens w o output names l ready) (hrequests : o.requests = [request]) :
    (ReferencePage.fetch w.respond request).1 = .ok names := by
  obtain ⟨request', page, hrequest, hpage, hnames⟩ := h.scraped
  rw [hrequests] at hrequest
  cases hrequest
  exact ReferencePage.fetch_eq_ok_iff.2 ⟨page, hpage, hnames⟩

theorem refreshes_runRefresh (output? url? : Option String)
    (timeout? : Option Binary64) (settings : Settings) (w : World) :
    Refreshes w output? (runRefresh output? timeout? url? settings w) := by
  unfold runRefresh
  generalize (url?.filter (· ≠ "")).getD settings.referenceUrl = url
  dsimp only
  split
  · -- no page is asked for
    refine .untouched ?_ (untouched_of_eq nofun rfl)
    rintro output names l ready - ⟨⟨request, page, hrequest, -⟩, -, -⟩
    cases hrequest
  · next timeout =>
    generalize hrequest : ReferencePage.Request.ofUrl url timeout = request
    have hfetch := @fetch_of_opens _ w
    cases hresult : ReferencePage.fetch w.respond request with
    | mk fetched log =>
      have hfst : (ReferencePage.fetch w.respond request).1 = fetched := by
        rw [hresult]
      dsimp only
      split
      -- nothing is fetched: a failure, or one that breaks off
      · next e =>
        refine .untouched ?_ ?_
        · intro output names l ready _ hopens
          have hok := hfetch hopens rfl
          rw [hfst] at hok
          cases hok
        · split
          · exact untouched_of_eq nofun rfl
          · exact untouched_of_eq nofun rfl
      -- a page without names
      · refine .untouched ?_ (untouched_of_eq nofun rfl)
        intro output names l ready _ hopens
        have hok := hfetch hopens rfl
        rw [hfst] at hok
        cases hok
        exact hopens.nonempty rfl
      -- no path to write to
      · refine .untouched ?_ (untouched_of_eq nofun rfl)
        intro output names l ready houtput
        cases houtput
      · next names output hne =>
        obtain ⟨page, hpage, hnames⟩ :=
          ReferencePage.fetch_eq_ok_iff.1 hfst
        by_cases hopen : ∃ l ready, OpensAt w.files output l ready
        · obtain ⟨l, ready, hopen⟩ := hopen
          have hstores := stores_storeNames hopen names
          exact .opens rfl ⟨⟨request, page, rfl, hpage, hnames⟩, hne, hopen⟩
            (hstores.of_eq rfl rfl rfl)
        · have hopen : ∀ l ready, ¬ OpensAt w.files output l ready :=
            fun l ready h => hopen ⟨l, ready, h⟩
          obtain ⟨hending, hfiles⟩ := untouched_storeNames hopen names
          refine .untouched ?_ ⟨hending, hfiles⟩
          intro output' names' l ready houtput hopens
          cases houtput
          exact hopen l ready hopens.opened

/-- **How a refresh goes.** -/
theorem run_refresh_cases {args : List String} {verbose : Bool}
    {output? url? : Option String} {timeout? : Option Binary64}
    (hargs : Invocation.ofArgs args
      = .ok ⟨verbose, .refreshFunctions output? timeout? url?⟩) (w : World) :
    Refreshes w output? (run args w) := by
  unfold run
  rw [hargs]
  unfold Invocation.run
  dsimp only
  cases Settings.loadOrDefault w.files with
  | mk loaded log =>
    cases loaded with
    | error e =>
      refine .untouched ?_ (untouched_of_eq nofun rfl)
      rintro output names l ready - ⟨⟨request, page, hrequest, -⟩, -, -⟩
      cases hrequest
    | ok settings =>
      cases refreshes_runRefresh output? url? timeout? settings w with
      | untouched hopens h =>
        refine .untouched (fun output names l ready houtput h =>
          hopens output names l ready houtput ?_) ⟨h.ending, h.files⟩
        exact ⟨h.scraped, h.nonempty, h.opened⟩
      | opens houtput hopens hstores =>
        exact .opens houtput
          ⟨hopens.scraped, hopens.nonempty, hopens.opened⟩
          (hstores.of_eq rfl rfl rfl)

end CommandLine

end LogQuery
