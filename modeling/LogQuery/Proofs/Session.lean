/-
Which vocabulary a session paints with.

It is the one that came into force last, by being published or by being built
without a failure. Requests are numbered, and what supplies a vocabulary is
told of each number by itself (`SuppliesAt`), with the files as they are at
that point (`filesAfter`): so `InForce` says nothing of stores and locks, and
a list that is written later is not in it.

The invariant of a run is that nobody holds the lock between two requests. A
building that fails gives it back like any other; this is what lets the
requests behind it have their turn (`run_getElem?`).
-/
import LogQuery.Session

namespace LogQuery

-- =================================================================== stores

namespace Store

/-- A store that is given a vocabulary has it and is free. -/
theorem publish_eq (s : Store) (v : Vocabulary) :
    s.publish v = ofVocabulary v :=
  rfl

/-- And so is one that is given a vocabulary that was built. -/
theorem reload_of_ok {ε : Type} (s : Store) (v : Vocabulary) :
    s.reload (.ok v : Except ε Vocabulary) = ofVocabulary v :=
  rfl

/-- A building that fails gives the lock back too. -/
theorem reload_of_error {ε : Type} (s : Store) (e : ε) :
    s.reload (.error e) = ofVocabulary s.vocabulary :=
  rfl

end Store

namespace Session

variable {t : FileTree} {styles : Styles} {v₀ v w : Vocabulary}
  {rs : List Request}

-- ======================================================== what is supplied

/-- The files after a request. -/
def Request.filesAfter (t : FileTree) : Request → FileTree
  | .files t' => t'
  | _ => t

/-- The files after requests. -/
def filesAfter (t : FileTree) (rs : List Request) : FileTree :=
  rs.foldl Request.filesAfter t

variable [Packages]

/-- The request supplies `v`, the files being `t`. -/
inductive Request.Supplies (t : FileTree) (v : Vocabulary) : Request → Prop
  | publish : Supplies t v (.publish v)
  | reload : Supplies t v (.reload (.ok v))
  | reloadList {path : String} {log : List LogLine} :
    FunctionList.vocabulary t path = (.ok v, log) →
    Supplies t v (.reloadList path)

/-- Request number `i` supplies `v`, the files being `t` at first. -/
def SuppliesAt (t : FileTree) (rs : List Request) (i : Nat)
    (v : Vocabulary) : Prop :=
  ∃ r, rs[i]? = some r ∧ r.Supplies (filesAfter t (rs.take i)) v

/-- After the requests, `v` has been supplied latest; or none of them has
supplied any, and `v` is the one there was at first. -/
def InForce (t : FileTree) (v₀ : Vocabulary) (rs : List Request)
    (v : Vocabulary) : Prop :=
  (∃ i, SuppliesAt t rs i v ∧ ∀ j w, SuppliesAt t rs j w → j ≤ i)
    ∨ (∀ i w, ¬SuppliesAt t rs i w) ∧ v = v₀

/-- A request supplies one vocabulary at most. -/
theorem Request.Supplies.unique {r : Request} (hv : r.Supplies t v)
    (hw : r.Supplies t w) : v = w := by
  cases hv with
  | publish => cases hw; rfl
  | reload => cases hw; rfl
  | reloadList hbuilt =>
    cases hw with
    | reloadList hbuilt' =>
      rw [hbuilt] at hbuilt'
      cases hbuilt'
      rfl

/-- A list that gives no vocabulary supplies none. -/
theorem not_supplies {path : String} {e : FunctionList.LoadError}
    {log : List LogLine}
    (h : FunctionList.vocabulary t path = (.error e, log)) :
    ¬(Request.reloadList path).Supplies t v := by
  rintro (- | - | hbuilt)
  rw [h] at hbuilt
  cases hbuilt

theorem SuppliesAt.unique {i : Nat} (hv : SuppliesAt t rs i v)
    (hw : SuppliesAt t rs i w) : v = w := by
  obtain ⟨r, hr, hv⟩ := hv
  obtain ⟨r', hr', hw⟩ := hw
  obtain rfl : r = r' := by simpa [hr] using hr'
  exact hv.unique hw

/-- One vocabulary is in force. -/
theorem InForce.unique (hv : InForce t v₀ rs v) (hw : InForce t v₀ rs w) :
    v = w := by
  obtain ⟨i, hi, hlast⟩ | ⟨hnone, rfl⟩ := hv
  · obtain ⟨j, hj, hlast'⟩ | ⟨hnone', -⟩ := hw
    · obtain rfl : i = j := Nat.le_antisymm (hlast' i v hi) (hlast j w hj)
      exact hi.unique hj
    · exact absurd hi (hnone' i v)
  · obtain ⟨j, hj, -⟩ | ⟨-, rfl⟩ := hw
    · exact absurd hj (hnone j w)
    · rfl

theorem suppliesAt_cons_zero {r : Request} :
    SuppliesAt t (r :: rs) 0 v ↔ r.Supplies t v := by
  simp [SuppliesAt, filesAfter]

theorem suppliesAt_cons_succ {r : Request} {i : Nat} :
    SuppliesAt t (r :: rs) (i + 1) v
      ↔ SuppliesAt (r.filesAfter t) rs i v := by
  simp [SuppliesAt, filesAfter]

theorem inForce_nil : InForce t v [] v :=
  .inr ⟨by simp [SuppliesAt], rfl⟩

/-- The first request has supplied `v`, or has left `v`. What the others
leave in force does not depend on which. -/
theorem InForce.cons {r : Request}
    (hv : r.Supplies t v ∨ (∀ u, ¬r.Supplies t u) ∧ v = v₀)
    (h : InForce (r.filesAfter t) v rs w) : InForce t v₀ (r :: rs) w := by
  obtain ⟨i, hi, hlast⟩ | ⟨hnone, rfl⟩ := h
  · refine .inl ⟨i + 1, suppliesAt_cons_succ.2 hi, fun j u hj => ?_⟩
    cases j with
    | zero => exact Nat.zero_le _
    | succ j => exact Nat.succ_le_succ (hlast j u (suppliesAt_cons_succ.1 hj))
  · obtain hr | ⟨hr, rfl⟩ := hv
    · refine .inl ⟨0, suppliesAt_cons_zero.2 hr, fun j u hj => ?_⟩
      cases j with
      | zero => exact Nat.le_refl 0
      | succ j => exact absurd (suppliesAt_cons_succ.1 hj) (hnone j u)
    · refine .inr ⟨fun j u hj => ?_, rfl⟩
      cases j with
      | zero => exact hr u (suppliesAt_cons_zero.1 hj)
      | succ j => exact hnone j u (suppliesAt_cons_succ.1 hj)

-- ============================================================ one request

/-- What a request is answered while `v` is in force and the files are
`t`. -/
inductive Answers (v : Vocabulary) (styles : Styles) (t : FileTree) :
    Request → Reply → Prop
  | publish (u : Vocabulary) : Answers v styles t (.publish u) .done
  | reload (u : Vocabulary) :
    Answers v styles t (.reload (.ok u)) (.published u)
  | reloadFails (reason : String) :
    Answers v styles t (.reload (.error reason)) (.failed reason)
  | reloadList {path : String} {u : Vocabulary} {log : List LogLine} :
    FunctionList.vocabulary t path = (.ok u, log) →
    Answers v styles t (.reloadList path) (.published u)
  | reloadListFails {path : String} {e : FunctionList.LoadError}
      {log : List LogLine} :
    FunctionList.vocabulary t path = (.error e, log) →
    Answers v styles t (.reloadList path) (.unloaded e)
  | files (t' : FileTree) : Answers v styles t (.files t') .done
  | highlight (query : String) :
    Answers v styles t (.highlight query)
      (.painted (LogQuery.highlight v styles query))
  | classify (query : String) :
    Answers v styles t (.classify query) (.classified (tokens v query))

omit [Packages] in
/-- The reply hands on why no vocabulary could be built. -/
def Reply.IsFailure : Reply → Prop
  | .failed _ | .unloaded _ => True
  | .done | .published _ | .painted _ | .classified _ => False

/-- Every request is answered under the vocabulary of the session. -/
theorem step_answers (v : Vocabulary) (styles : Styles) (t : FileTree)
    (r : Request) :
    Answers v styles t r (step ⟨v, styles, t⟩ r).reply := by
  cases r with
  | publish u => exact .publish u
  | reload built =>
    cases built with
    | ok u => exact .reload u
    | error reason => exact .reloadFails reason
  | reloadList path =>
    match hbuilt : FunctionList.vocabulary t path with
    | (.ok u, log) =>
      simp only [step, hbuilt]
      exact .reloadList hbuilt
    | (.error e, log) =>
      simp only [step, hbuilt]
      exact .reloadListFails hbuilt
  | files t' => exact .files t'
  | highlight query => exact .highlight query
  | classify query => exact .classify query

/-- A request that fails supplies nothing and leaves the files. -/
theorem Answers.of_failure {r : Request} {reply : Reply}
    (h : Answers v styles t r reply) (hfails : reply.IsFailure) :
    (∀ u, ¬r.Supplies t u) ∧ r.filesAfter t = t := by
  cases h with
  | reloadFails reason => exact ⟨nofun, rfl⟩
  | reloadListFails hbuilt => exact ⟨fun _ => not_supplies hbuilt, rfl⟩
  | publish | reload | reloadList | files | highlight | classify =>
    exact hfails.elim

/-- Whatever the request, the lock is free afterwards, and the vocabulary is
the one that was supplied, or the one that there was. -/
theorem step_session (v : Vocabulary) (styles : Styles) (t : FileTree)
    (r : Request) :
    ∃ v' : Vocabulary,
      (step ⟨v, styles, t⟩ r).session = ⟨v', styles, r.filesAfter t⟩
      ∧ (r.Supplies t v' ∨ (∀ u, ¬r.Supplies t u) ∧ v' = v) := by
  cases r with
  | publish u =>
    refine ⟨u, ?_, .inl .publish⟩
    simp only [step, Store.publish_eq, Request.filesAfter]
  | reload built =>
    cases built with
    | ok u =>
      refine ⟨u, ?_, .inl .reload⟩
      simp only [step, Store.reload_of_ok, Request.filesAfter]
    | error reason =>
      refine ⟨v, ?_, .inr ⟨nofun, rfl⟩⟩
      simp only [step, Store.reload_of_error, Request.filesAfter]
      rfl
  | reloadList path =>
    match hbuilt : FunctionList.vocabulary t path with
    | (.ok u, log) =>
      refine ⟨u, ?_, .inl (.reloadList hbuilt)⟩
      simp only [step, hbuilt, Store.reload_of_ok, Request.filesAfter]
    | (.error e, log) =>
      refine ⟨v, ?_, .inr ⟨fun _ => not_supplies hbuilt, rfl⟩⟩
      simp only [step, hbuilt, Store.reload_of_error, Request.filesAfter]
      rfl
  | files t' => exact ⟨v, rfl, .inr ⟨nofun, rfl⟩⟩
  | highlight query => exact ⟨v, rfl, .inr ⟨nofun, rfl⟩⟩
  | classify query => exact ⟨v, rfl, .inr ⟨nofun, rfl⟩⟩

/-- A request that fails leaves the whole session as it was. -/
theorem step_failure {r : Request}
    (h : (step ⟨v, styles, t⟩ r).reply.IsFailure) :
    (step ⟨v, styles, t⟩ r).session = ⟨v, styles, t⟩ := by
  obtain ⟨v', hsession, hv'⟩ := step_session v styles t r
  obtain ⟨hnone, hfiles⟩ := (step_answers v styles t r).of_failure h
  obtain hsupplied | ⟨-, rfl⟩ := hv'
  · exact absurd hsupplied (hnone v')
  · rw [hsession, hfiles]

-- ============================================================ many requests

/-- The session after requests that have all had their turn. -/
def after (s : Session) (rs : List Request) : Session :=
  rs.foldl (fun s r => (s.step r).session) s

/-- After one more request the session is one step further. -/
theorem after_append_singleton (s : Session) (r : Request) :
    s.after (rs ++ [r]) = ((s.after rs).step r).session := by
  simp [after]

/-- After any requests the styles are the same, the files are as they were
left, and a vocabulary is in force. -/
theorem after_eq (v : Vocabulary) (styles : Styles) (t : FileTree)
    (rs : List Request) :
    ∃ v' : Vocabulary, after ⟨v, styles, t⟩ rs = ⟨v', styles, filesAfter t rs⟩
      ∧ InForce t v rs v' := by
  induction rs generalizing v t with
  | nil => exact ⟨v, rfl, inForce_nil⟩
  | cons r rs ih =>
    obtain ⟨v₁, hstep, hv₁⟩ := step_session v styles t r
    obtain ⟨v', hafter, hv'⟩ := ih v₁ (r.filesAfter t)
    refine ⟨v', ?_, hv'.cons hv₁⟩
    calc after ⟨v, styles, t⟩ (r :: rs)
        = after (step ⟨v, styles, t⟩ r).session rs := rfl
      _ = after ⟨v₁, styles, r.filesAfter t⟩ rs := by rw [hstep]
      _ = ⟨v', styles, filesAfter t (r :: rs)⟩ := hafter

/-- Every request has its turn. -/
theorem run_getElem? (v : Vocabulary) (styles : Styles) (t : FileTree)
    (before : List Request) (r : Request) (rest : List Request) :
    (run ⟨v, styles, t⟩ (before ++ r :: rest))[before.length]?
      = some ((after ⟨v, styles, t⟩ before).step r) := by
  induction before generalizing v t with
  | nil => rfl
  | cons r' before ih =>
    -- the lock is free again, so the others run as from the start
    obtain ⟨v₁, hstep, -⟩ := step_session v styles t r'
    calc (run ⟨v, styles, t⟩ (r' :: before ++ r :: rest))[before.length + 1]?
        = (run (step ⟨v, styles, t⟩ r').session
            (before ++ r :: rest))[before.length]? := rfl
      _ = some ((after (step ⟨v, styles, t⟩ r').session before).step r) := by
        rw [hstep, ih]
      _ = some ((after ⟨v, styles, t⟩ (r' :: before)).step r) := rfl

/-- **A session paints with the vocabulary that came into force last.**
Whatever is asked of it, each request has its turn and is answered with that
vocabulary and with the files as they are then. A list or a build that fails
is reported and leaves everything as it was. -/
theorem run_answers (v₀ : Vocabulary) (styles : Styles) (t : FileTree)
    (before : List Request) (r : Request) (rest : List Request) :
    ∃ (v v' : Vocabulary) (o : Outcome),
      (∀ w, InForce t v₀ before w ↔ w = v)
      ∧ (∀ w, InForce t v₀ (before ++ [r]) w ↔ w = v')
      ∧ (run ⟨v₀, styles, t⟩ (before ++ r :: rest))[before.length]? = some o
      ∧ Answers v styles (filesAfter t before) r o.reply
      ∧ o.session = ⟨v', styles, filesAfter t (before ++ [r])⟩
      ∧ (o.reply.IsFailure →
        o.session = ⟨v, styles, filesAfter t before⟩) := by
  obtain ⟨v, hbefore, hv⟩ := after_eq v₀ styles t before
  obtain ⟨v', hafter, hv'⟩ := after_eq v₀ styles t (before ++ [r])
  rw [after_append_singleton, hbefore] at hafter
  have hrun := run_getElem? v₀ styles t before r rest
  rw [hbefore] at hrun
  exact ⟨v, v', _, fun w => ⟨fun hw => hw.unique hv, fun hw => hw ▸ hv⟩,
    fun w => ⟨fun hw => hw.unique hv', fun hw => hw ▸ hv'⟩, hrun,
    step_answers v styles _ r, hafter, step_failure⟩

end Session

end LogQuery
