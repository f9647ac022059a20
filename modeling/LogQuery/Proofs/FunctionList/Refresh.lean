/-
Refreshed lists load back.

The names on a reference page are bare and different from each other, so
that a list of them loads as the set of just these names. A run that
refreshes a list and reports success has asked for one page, saved the names
on it and told how many they are (`run_refresh_exit_zero`); the list that it
leaves has as many names as it says (`refreshed_list_loads_back`).
-/
import LogQuery.Proofs.CommandLine.Refresh
import LogQuery.Proofs.ReferencePage.Names

namespace LogQuery

open FunctionList Text

namespace ReferencePage

-- =================================================================== pages

/-- A list of the names on a page loads back. -/
theorem load_of_save_names {page : String} {names : List String}
    (hnames : ReferencePage.names page = .ok names) {t t' : FileTree}
    {path : String} (h : save t (.ofList names) path = (.ok (), t')) :
    load t' path = .ok (.ofList names) := by
  rw [load_of_save h, namesOf_of_bare (names_eq_ok hnames).2]

end ReferencePage

namespace CommandLine

-- ==================================================================== runs

/-- A refresh that succeeds has saved the names on the page that it asked for,
and tells how many they are. -/
theorem run_refresh_exit_zero {args : List String} {w : World}
    {verbose : Bool} {output? url? : Option String}
    {timeout? : Option Binary64}
    (hargs : Invocation.ofArgs args
      = .ok ⟨verbose, .refreshFunctions output? timeout? url?⟩)
    (h : (run args w).ending = .exit 0) :
    ∃ output names l ready, output? = some output
      ∧ Opens w (run args w) output names l ready
      ∧ save w.files (.ofList names) output = (.ok (), (run args w).files)
      ∧ (run args w).output = wroteText names output := by
  cases run_refresh_cases hargs w with
  | untouched hopens huntouched => exact absurd h huntouched.ending
  | @opens output names l ready houtput hopens hstores =>
    refine ⟨output, names, l, ready, houtput, hopens, ?_⟩
    cases hstores with
    | cut hroom hending hfiles => rw [h] at hending; cases hending
    | unsaid report hroom hfault hending hfiles =>
      rw [h] at hending
      cases hending
    | done hroom hfault hending hfiles hprinted =>
      obtain ⟨file, hsave⟩ := save_of_opensAt hopens.opened names
      refine ⟨?_, hprinted⟩
      rw [hsave, hfiles, if_pos hroom, FileTree.taken_of_hasRoom hroom]

/-- A list that was saved loads as the names in its texts. If its texts are
the names on a page, it loads as these names. So the list that a run has
refreshed holds the names on the page that it asked for, and their number is
the one that is printed. -/
theorem refreshed_list_loads_back :
    (∀ (t t' : FileTree) (names : List String) (path : String),
      save t (.ofList names) path = (.ok (), t') →
        ∃ loaded, load t' path = .ok loaded
          ∧ ∀ n, n ∈ loaded ↔ ∃ s ∈ names, trim s ≠ "" ∧ nameOf s = n) ∧
    (∀ (page : String) (names : List String),
      ReferencePage.names page = .ok names →
        names.Nodup ∧ ∀ (t t' : FileTree) (path : String),
          save t (.ofList names) path = (.ok (), t') →
            ∃ loaded, load t' path = .ok loaded
              ∧ ∀ n, n ∈ loaded ↔ n ∈ names) ∧
    (∀ (args : List String) (w : World) (verbose : Bool)
        (output? url? : Option String) (timeout? : Option Binary64),
      Invocation.ofArgs args
          = .ok ⟨verbose, .refreshFunctions output? timeout? url?⟩ →
      (run args w).ending = .exit 0 →
        ∃ output request page names loaded, output? = some output
          ∧ (run args w).requests = [request]
          ∧ ReferencePage.pageOf request.url (w.respond request) = .ok page
          ∧ ReferencePage.names page = .ok names
          ∧ load (run args w).files output = .ok loaded
          ∧ (∀ n, n ∈ loaded ↔ n ∈ names)
          ∧ (run args w).output = "Wrote " ++ toString loaded.size
            ++ " function names to " ++ output ++ "
") := by
  refine ⟨fun t t' names path h => ⟨_, load_of_save h, fun n => mem_namesOf⟩,
    fun page names hnames => ⟨(ReferencePage.names_eq_ok hnames).1,
      fun t t' path h => ⟨_, ReferencePage.load_of_save_names hnames h,
        fun n => NameSet.mem_ofList⟩⟩, ?_⟩
  intro args w verbose output? url? timeout? hargs hexit
  obtain ⟨output, names, l, ready, houtput, hopens, hsaved, hprinted⟩ :=
    run_refresh_exit_zero hargs hexit
  obtain ⟨request, page, hrequest, hpage, hnames⟩ := hopens.scraped
  refine ⟨output, request, page, names, _, houtput, hrequest, hpage, hnames,
    ReferencePage.load_of_save_names hnames hsaved,
    fun n => NameSet.mem_ofList, ?_⟩
  rw [NameSet.size_ofList (ReferencePage.names_eq_ok hnames).1, hprinted]
  rfl

/-- Two signatures, one of them blank; a page with one function; and a run
that refreshes a list from this page. -/
theorem refreshed_list_loads_back_top :
    let files : FileTree := ⟨"/home", [], [], [], none⟩
    let page :=
      "<table><tr><th>Function</th></tr><tr><td>top(x)</td></tr></table>"
    let w : World :=
      ⟨80, files, "", fun _ => .answered 200 "OK" page, fun _ => none⟩
    let args := ["functions", "refresh", "-o", "f.yml"]
    (∃ loaded,
      load (save files (.ofList ["b(x)", " "]) "f.yml").2 "f.yml"
          = .ok loaded
        ∧ ∀ n, n ∈ loaded
          ↔ ∃ s ∈ ["b(x)", " "], trim s ≠ "" ∧ nameOf s = n) ∧
    (["top"].Nodup ∧ ∃ loaded,
      load (save files (.ofList ["top"]) "f.yml").2 "f.yml" = .ok loaded
        ∧ ∀ n, n ∈ loaded ↔ n ∈ ["top"]) ∧
    ∃ output request page names loaded, some "f.yml" = some output
      ∧ (run args w).requests = [request]
      ∧ ReferencePage.pageOf request.url (w.respond request) = .ok page
      ∧ ReferencePage.names page = .ok names
      ∧ load (run args w).files output = .ok loaded
      ∧ (∀ n, n ∈ loaded ↔ n ∈ names)
      ∧ (run args w).output = "Wrote " ++ toString loaded.size
        ++ " function names to " ++ output ++ "\n" := by
  intro files page w args
  have hsaved (names : List String)
      (h : (save files (.ofList names) "f.yml").1 = .ok ()) :
      save files (.ofList names) "f.yml"
        = (.ok (), (save files (.ofList names) "f.yml").2) :=
    Prod.ext h rfl
  have hnames : ReferencePage.names page = .ok ["top"] := by decide +kernel
  have hargs : Invocation.ofArgs args = .ok ⟨false, .refreshFunctions
      (some "f.yml") (some ReferencePage.defaultTimeout) none⟩ := by
    decide +kernel
  have hexit : (run args w).ending = .exit 0 := by decide +kernel
  obtain ⟨hload, hpage, hrun⟩ := refreshed_list_loads_back
  obtain ⟨hnodup, htop⟩ := hpage page ["top"] hnames
  exact ⟨hload files _ _ "f.yml" (hsaved _ (by decide +kernel)),
    ⟨hnodup, htop files _ "f.yml" (hsaved _ (by decide +kernel))⟩,
    hrun args w false _ _ _ hargs hexit⟩

end CommandLine

end LogQuery
