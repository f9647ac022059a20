/-
What refreshing a list does to the files.

A refresh should leave every file alone unless it succeeds, so that an old
list is never lost. Two of the gates that a run goes through come too late for
this: a file is empty as soon as it is opened, and only then it shows whether
there is room for the names; and the names are on the disk before the output
is asked to take what is said of them. `refresh_empties_first` tells all runs
apart by these gates. Up to the opening of the file every failure leaves no
more than new directories behind; after it nothing is left of the old list,
whatever the status. Of no other file anything changes.
-/
import LogQuery.Proofs.FunctionList.Refresh

namespace LogQuery.CommandLine

open Yaml

variable {w : World} {o : Outcome} {output : String} {names : List String}
  {l : Location} {ready : FileTree}

/-- The bytes that a run leaves in the file that it has opened. -/
theorem exists_bytes_of_stores (h : Stores w output names l ready o) :
    ∃ bytes, o.files = ready.setEntry l (.file bytes) := by
  cases h with
  | cut _ _ hfiles => exact ⟨_, hfiles⟩
  | unsaid _ _ _ _ hfiles => exact ⟨_, hfiles⟩
  | done _ _ _ hfiles => exact ⟨_, hfiles⟩

/-- The output path still leads to the file that was opened, and no other file
is new or has changed. -/
theorem frame_of_stores (hopens : OpensAt w.files output l ready)
    (h : Stores w output names l ready o) :
    (∃ file, w.files.expandHome output = .ok file
        ∧ o.files.locate file = .ok l)
      ∧ ∀ m, m ≠ l → w.files.KeptOrNew o.files m := by
  obtain ⟨file, hfile, hopen⟩ := hopens
  obtain ⟨bytes, hfiles⟩ := exists_bytes_of_stores h
  rw [hfiles]
  exact ⟨⟨file, hfile, (FileTree.keeps_setEntry_openText hopen bytes).2⟩,
    (FileTree.keptOrNew_setEntry_openText hopen bytes).2⟩

/-- What the file holds in the end that was opened. -/
theorem entry_of_stores (hopens : OpensAt w.files output l ready)
    {bytes : ByteArray} (hfiles : o.files = ready.setEntry l (.file bytes)) :
    o.files.entry? l = some (.file bytes) := by
  obtain ⟨file, -, hopen⟩ := hopens
  rw [hfiles]
  exact (FileTree.keptOrNew_setEntry_openText hopen bytes).1

/-- A refresh that does not open its file fails, and no file is new or has
changed. One that opens its file has asked for one page with names on it, and
leaves every other file alone. If there is no room for the list of these names
in ascending order, the run fails and its file has kept no more than a first
part of the list. Otherwise its file is the list; the run succeeds if the
output takes what is said of it, and breaks off if it does not. -/
theorem refresh_empties_first [Packages] {args : List String}
    {verbose : Bool} {output? url? : Option String}
    {timeout? : Option Binary64}
    (hargs : Invocation.ofArgs args
      = .ok ⟨verbose, .refreshFunctions output? timeout? url?⟩) (w : World) :
    ((∀ output names l ready, output? = some output →
        ¬ Opens w (run args w) output names l ready)
      ∧ (run args w).ending ≠ .exit 0
      ∧ w.files.AddsDirectories (run args w).files) ∨
    ∃ output names l ready sorted, output? = some output
      ∧ Opens w (run args w) output names l ready
      ∧ (∃ file, w.files.expandHome output = .ok file
        ∧ (run args w).files.locate file = .ok l)
      ∧ (∀ m, m ≠ l → w.files.KeptOrNew (run args w).files m)
      ∧ sorted.Pairwise (· < ·) ∧ (∀ n, n ∈ sorted ↔ n ∈ names)
      ∧ let list := (Writer.keyedList "functions" sorted).toUTF8
        (w.files.hasRoom list.size = false
          ∧ (run args w).ending = .exit 1
          ∧ (run args w).files.entry? l
            = some (.file (w.files.taken list))) ∨
        (w.files.hasRoom list.size = true
          ∧ (∃ report, w.outputFault? (wroteText names output) = some report
            ∧ (run args w).ending = .broken (.print report))
          ∧ (run args w).files.entry? l = some (.file list)) ∨
        (w.files.hasRoom list.size = true
          ∧ w.outputFault? (wroteText names output) = none
          ∧ (run args w).ending = .exit 0
          ∧ (run args w).files.entry? l = some (.file list)) := by
  cases run_refresh_cases hargs w with
  | untouched hopens h => exact .inl ⟨hopens, h.ending, h.files⟩
  | @opens output names l ready houtput hopens hstores =>
    obtain ⟨hfile, hframe⟩ := frame_of_stores hopens.opened hstores
    have hmem (n : String) : n ∈ (NameSet.ofList names).toList ↔ n ∈ names :=
      NameSet.mem_ofList
    refine .inr ⟨output, names, l, ready, _, houtput, hopens, hfile, hframe,
      (NameSet.ofList names).ascending, hmem, ?_⟩
    cases hstores with
    | cut hroom hending hfiles =>
      exact .inl ⟨hroom, hending, entry_of_stores hopens.opened hfiles⟩
    | unsaid report hroom hfault hending hfiles =>
      exact .inr (.inl ⟨hroom, ⟨report, hfault, hending⟩,
        entry_of_stores hopens.opened hfiles⟩)
    | done hroom hfault hending hfiles houtput =>
      exact .inr (.inr ⟨hroom, hfault, hending,
        entry_of_stores hopens.opened hfiles⟩)

/-- The old list is replaced by that of a page with two functions if there is
room for it. -/
theorem refresh_empties_first_old_list :
    let files : FileTree :=
      ⟨"/home", [], [], [(["f.yml"], .file "- old\n".toUTF8)], none⟩
    let page := "<table><tr><td>Function</td></tr><tr><td>top(x)</td></tr>"
      ++ "<tr><td>avg()</td></tr></table>"
    let w : World :=
      ⟨80, files, "", fun _ => .answered 200 "OK" page, fun _ => none⟩
    let args := ["functions", "refresh", "-o", "f.yml"]
    ∃ names l sorted, (run args w).requests.length = 1
      ∧ ReferencePage.names page = .ok names
      ∧ sorted.Pairwise (· < ·) ∧ (∀ n, n ∈ sorted ↔ n ∈ names)
      ∧ (run args w).files.locate "f.yml" = .ok l
      ∧ (run args w).files.entry? l
        = some (.file (Writer.keyedList "functions" sorted).toUTF8)
      ∧ ∀ m, m ≠ l → files.KeptOrNew (run args w).files m := by
  intro files page w args
  have hargs : Invocation.ofArgs args = .ok ⟨false, .refreshFunctions
      (some "f.yml") (some ReferencePage.defaultTimeout) none⟩ := by
    decide +kernel
  have hexit : (run args w).ending = .exit 0 := by decide +kernel
  rcases refresh_empties_first hargs w with ⟨-, hfails, -⟩ |
    ⟨output, names, l, ready, sorted, houtput, hopens, ⟨file, hfile, hl⟩,
      hframe, hsorted, hmem, hstores⟩
  · exact absurd hexit hfails
  · cases houtput
    -- the path names no home
    cases hfile
    obtain ⟨request, page', hrequest, hpage, hnames⟩ := hopens.scraped
    -- the one response is the page
    cases hpage
    rcases hstores with ⟨-, hone, -⟩ | ⟨-, ⟨report, -, hbroken⟩, -⟩ |
      ⟨-, -, -, hentry⟩
    · rw [hexit] at hone
      cases hone
    · rw [hexit] at hbroken
      cases hbroken
    · exact ⟨names, l, sorted, by rw [hrequest]; rfl, hnames, hsorted, hmem,
        hl, hentry, hframe⟩

/-- On a full disk a refresh fails with the status 1, and the old list is
lost: its file is empty. -/
theorem run_full_disk :
    let page := "<table><tr><td>Function</td></tr><tr><td>top(x)</td></tr>"
      ++ "</table>"
    let w : World := ⟨80,
      ⟨"/home", [], [], [(["f.yml"], .file "- old\n".toUTF8)], some 0⟩, "",
      fun _ => .answered 200 "OK" page, fun _ => none⟩
    let o := run ["functions", "refresh", "-o", "f.yml"] w
    o.ending = .exit 1
      ∧ o.complaints = ["Error: Could not write function list: "
        ++ "[Errno 28] No space left on device"]
      ∧ w.files.find? "f.yml" = some (.file "- old\n".toUTF8)
      ∧ o.files.find? "f.yml" = some (.file "".toUTF8) := by
  decide +kernel

end LogQuery.CommandLine
