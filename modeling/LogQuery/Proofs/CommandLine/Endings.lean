/-
How a run ends.

A run is meant to succeed, or to complain with one line and the status 1.
There are runs that do neither and break off. Which ones is told here by what
they meet, command by command (`Command.BreaksOff`): a query file that is no
text, a function list or a settings file that ends the run, a style that is
none, a request that can not be made, a page that can not be read, a path with
the mark of its end inside, a value that was taken away, a text that the
output refuses. `run_reports_or_breaks` says that these are all.
-/
import LogQuery.Proofs.CommandLine.Refresh
import LogQuery.Proofs.Settings

namespace LogQuery

open Text

-- ============================================================ vocabularies

section

variable [Packages]

end

namespace CommandLine

variable {w : World} {o : Outcome} {P : Prop}

-- ================================================================= endings

/-- The run tells how it went: it succeeds without a complaint, or fails with
one. -/
inductive Outcome.Reports (o : Outcome) : Prop where
  | success (hending : o.ending = .exit 0) (hcomplaints : o.complaints = [])
  | failure (message : String) (hending : o.ending = .exit 1)
    (hcomplaints : o.complaints = ["Error: " ++ message])

/-- The run breaks off, without a status. -/
def Outcome.IsBroken (o : Outcome) : Prop := ∃ b, o.ending = .broken b

/-- The run breaks off if `P`, and reports otherwise. -/
def Outcome.BreaksIf (o : Outcome) (P : Prop) : Prop :=
  (¬ P ∧ o.Reports) ∨ (P ∧ o.IsBroken)

theorem Outcome.BreaksIf.congr {Q : Prop} (h : o.BreaksIf P) (hPQ : P ↔ Q) :
    o.BreaksIf Q := by
  unfold BreaksIf at h ⊢
  rwa [← hPQ]

/-- Neither the log nor the requests tell how a run ends. -/
theorem Outcome.BreaksIf.of_eq {o' : Outcome} (h : o.BreaksIf P)
    (hending : o'.ending = o.ending)
    (hcomplaints : o'.complaints = o.complaints) : o'.BreaksIf P := by
  rcases h with ⟨hP, hreports⟩ | ⟨hP, b, hb⟩
  · refine .inl ⟨hP, ?_⟩
    cases hreports with
    | success h hc => exact .success (hending.trans h) (hcomplaints.trans hc)
    | failure message h hc =>
      exact .failure message (hending.trans h) (hcomplaints.trans hc)
  · exact .inr ⟨hP, b, hending.trans hb⟩

section

variable [Packages]

omit [Packages] in
/-- What is printed of a listing. -/
def Listing.shown (l : Listing) (format : TokenFormat) (w : World) : String :=
  match format with
  | .json => l.json
  | .table => l.table.render w.width

end

end CommandLine

end LogQuery
