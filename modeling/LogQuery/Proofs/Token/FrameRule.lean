/-
Reading a part of a query inside other brackets.

A part of a query is closed off if each of its closing brackets closes a
bracket of the part itself. Such a part sees only the current frame of the
brackets around it, and only what that frame says about the meaning of the
text. Its tokens are the same inside any such brackets, and the frames it
leaves open come on top of them.

# The simulation

Whether a closing bracket finds its frame depends on the closers of the
frames alone. So the part is read beside a run of it on its own, and what is
kept is that both runs have the same closers above the brackets around. The
frames themselves can differ: a grouping parenthesis copies its meaning from
the frame around it.
-/
import LogQuery.Proofs.Token.Bracket
import LogQuery.Vocabulary.Builtin

namespace LogQuery

variable {v : Vocabulary}

namespace Stack

variable {s : Stack}

-- ============================================= frames above a stack

/-- The stack with more frames open inside its current one, innermost
first. -/
def above (s : Stack) (fs : List Frame) : Stack := ⟨fs ++ s.frames⟩

theorem above_nil (s : Stack) : s.above [] = s := rfl

/-- A frame is pushed onto those above. -/
theorem push_above (s : Stack) (fs : List Frame) (f : Frame) :
    (s.above fs).push f = s.above (f :: fs) := rfl

/-- A stack has no frames above itself. -/
theorem eq_nil_of_above_eq {fs : List Frame} (h : s.above fs = s) :
    fs = [] :=
  List.append_left_eq_self.1 (congrArg Stack.frames h)

/-- Above stacks with frames of one meaning, current frames have one meaning
as well. -/
theorem current_above_alike {g : Frame} (fs : List Frame)
    (h : s.current.Alike g) :
    (s.above fs).current.Alike (fs.head?.getD g) := by
  cases fs with
  | nil => exact h
  | cons f fs => exact ⟨rfl, rfl⟩

/-- What is found on one stack is found above any stack by frames of the same
closers. -/
theorem exists_close_above {u : Stack} {fs : List Frame} {closer : String}
    (hclosers : fs.map (·.closer?) = u.frames.map (·.closer?))
    (hfinds : (u.close closer).1.isSome = true) :
    ∃ gs, gs.map (·.closer?) = (u.close closer).2.frames.map (·.closer?)
      ∧ ∀ s : Stack, ((s.above fs).close closer).2 = s.above gs := by
  have hdrop : (fs.dropWhile (·.closer? ≠ some closer)).map (·.closer?)
      = (u.frames.dropWhile (·.closer? ≠ some closer)).map (·.closer?) := by
    have hcongr := congrArg (List.dropWhile (· ≠ some closer)) hclosers
    rw [List.dropWhile_map, List.dropWhile_map] at hcongr
    exact hcongr
  cases hu : u.frames.dropWhile (·.closer? ≠ some closer) with
  | nil =>
    rw [close, hu] at hfinds
    cases hfinds
  | cons g' gs' =>
    rw [hu, List.map_cons] at hdrop
    obtain ⟨g, gs, hfs, -, hgs⟩ := List.map_eq_cons_iff.1 hdrop
    refine ⟨gs, ?_, fun s => ?_⟩
    · rw [close_of_dropWhile hu]
      exact hgs
    -- the frame is found before the stack below is looked at
    · have hs : (s.above fs).frames.dropWhile (·.closer? ≠ some closer)
          = g :: (gs ++ s.frames) := by
        rw [above, List.dropWhile_append, hfs]
        rfl
      rw [close_of_dropWhile hs]
      rfl

/-- One fragment, read above any stack whose current frame has the meaning
of `g`, opens and closes the same frames. -/
theorem exists_read_above {u : Stack} {fs : List Frame} (g : Frame)
    (previous? : Option Fragment) (f : Fragment)
    (hclosers : fs.map (·.closer?) = u.frames.map (·.closer?))
    (hfinds : f.isCloser = true → (u.close f.text).1.isSome = true) :
    ∃ gs, gs.map (·.closer?)
        = (u.read v previous? f).frames.map (·.closer?)
      ∧ ∀ s : Stack, s.current.Alike g →
        (s.above fs).read v previous? f = s.above gs := by
  cases hopens : f.closer? with
  | some closer =>
    -- a bracket opens the frame that the innermost one tells
    refine ⟨openedFrame v (fs.head?.getD g) previous? f :: fs, ?_,
      fun s hs => ?_⟩
    · rw [read_of_closer? previous? hopens, push, List.map_cons, List.map_cons,
        closer?_openedFrame _ _ hopens, closer?_openedFrame _ _ hopens,
        hclosers]
    · rw [read_of_closer? previous? hopens, push_above,
        openedFrame_congr previous? f (current_above_alike fs hs)]
  | none =>
    cases hcloses : f.isCloser with
    | true =>
      -- a bracket closes a frame, which the part has opened
      obtain ⟨gs, hgs, hclose⟩ := exists_close_above hclosers (hfinds hcloses)
      refine ⟨gs, ?_, fun s _ => ?_⟩
      · rw [read_of_isCloser previous? hcloses]
        exact hgs
      · rw [read_of_isCloser previous? hcloses]
        exact hclose s
    | false =>
      refine ⟨fs, ?_, fun s _ => ?_⟩
      · rw [read_of_not_bracket previous? hopens hcloses]
        exact hclosers
      · rw [read_of_not_bracket previous? hopens hcloses]

end Stack

-- ======================================================= closed-off parts

/-- On its own, the part has an open frame for every closing bracket in
it. -/
def ClosedOff (v : Vocabulary) (part : List Fragment) : Prop :=
  ∀ before f after, part = before ++ f :: after → f.isCloser = true →
    ((classify v before .empty).2.close f.text).1.isSome = true

/-- Every closing bracket finds an open frame when the fragments are read
behind `previous?`, with the brackets of `s` open at first. -/
def findsFrames (v : Vocabulary) (previous? : Option Fragment) (s : Stack) :
    List Numbered → Bool
  | [] => true
  | n :: ns =>
    (!n.fragment.isCloser || (s.close n.fragment.text).1.isSome)
      && findsFrames v (some n.fragment) (s.read v previous? n.fragment) ns

theorem findsFrames_cons {previous? : Option Fragment} {s : Stack}
    {n : Numbered} {ns : List Numbered} :
    findsFrames v previous? s (n :: ns) = true
      ↔ (n.fragment.isCloser = true
          → (s.close n.fragment.text).1.isSome = true)
        ∧ findsFrames v (some n.fragment) (s.read v previous? n.fragment) ns
          = true := by
  rw [findsFrames, Bool.and_eq_true, Bool.or_eq_true, Bool.not_eq_true']
  cases n.fragment.isCloser with
  | true => simp
  | false => simp

/-- The ways to split a list at one of its elements. -/
theorem forall_split_cons {α : Type} {P : List α → α → Prop} {a : α}
    {as : List α} :
    (∀ xs x ys, a :: as = xs ++ x :: ys → P xs x)
      ↔ P [] a ∧ ∀ xs x ys, as = xs ++ x :: ys → P (a :: xs) x := by
  constructor
  · intro h
    exact ⟨h [] a as rfl, fun xs x ys heq => h (a :: xs) x ys (heq ▸ rfl)⟩
  · rintro ⟨hhead, htail⟩ xs x ys heq
    cases xs with
    | nil =>
      obtain ⟨rfl, rfl⟩ := List.cons.inj heq
      exact hhead
    | cons a' xs =>
      obtain ⟨rfl, hrest⟩ := List.cons.inj heq
      exact htail xs x ys hrest

/-- Each closing bracket finds its frame exactly if it does so behind what is
before it. -/
theorem findsFrames_iff {previous? : Option Fragment} {s : Stack}
    {start : Nat} {part : List Fragment} :
    findsFrames v previous? s (significantFrom start part) = true
      ↔ ∀ before f after, part = before ++ f :: after → f.isCloser = true →
        ((readFrom v previous? s (significantFrom start before)).2.close
          f.text).1.isSome = true := by
  induction part generalizing previous? s start with
  | nil => simp [significantFrom, findsFrames]
  | cons g part ih =>
    rw [forall_split_cons]
    cases hlayout : g.kind.isLayout with
    | true =>
      -- no layout closes a frame
      have hcloses : ¬ g.isCloser = true := by
        intro hcloses
        rw [Fragment.isLayout_of_isCloser hcloses] at hlayout
        cases hlayout
      simp only [significantFrom_cons_of_layout _ _ hlayout, ih, hcloses,
        Bool.false_eq_true, false_implies, true_and]
    | false =>
      simp only [significantFrom_cons_of_not_layout _ _ hlayout, ih,
        findsFrames_cons, readFrom_cons]
      rfl

theorem closedOff_iff {part : List Fragment} :
    ClosedOff v part
      ↔ findsFrames v none .empty (significantFrom 0 part) = true :=
  findsFrames_iff.symm

instance (v : Vocabulary) (part : List Fragment) :
    Decidable (ClosedOff v part) :=
  decidable_of_iff _ closedOff_iff.symm

-- =========================================================== the simulation

/-- Above all stacks whose current frame has the meaning of `g`, reading gives
the same tokens and leaves the same frames. -/
theorem exists_readFrom_above {u : Stack} {fs : List Frame} (g : Frame)
    (previous? : Option Fragment) (ns : List Numbered)
    (hclosers : fs.map (·.closer?) = u.frames.map (·.closer?))
    (hfinds : findsFrames v previous? u ns = true) :
    ∃ ts gs, ∀ s : Stack, s.current.Alike g →
      readFrom v previous? (s.above fs) ns = (ts, s.above gs) := by
  induction ns generalizing previous? u fs with
  | nil => exact ⟨[], fs, fun s _ => rfl⟩
  | cons n ns ih =>
    obtain ⟨hn, hns⟩ := findsFrames_cons.1 hfinds
    obtain ⟨gs, hgs, hread⟩ :=
      Stack.exists_read_above g previous? n.fragment hclosers hn
    obtain ⟨ts, hs, hrest⟩ := ih (some n.fragment) hgs hns
    refine ⟨n.token (categorize v (fs.head?.getD g) previous?
      (ns.head?.map (·.fragment)) n.fragment) (fs.head?.getD g) :: ts, hs,
      fun s halike => ?_⟩
    have hcurrent := Stack.current_above_alike fs halike
    rw [readFrom_cons, hread s halike, hrest s halike,
      categorize_congr n.fragment hcurrent.context rfl rfl,
      n.token_congr _ hcurrent]

-- ======================================================= balanced brackets

/-- Every opening bracket of the part has its closing bracket, and they are
nested. -/
inductive Balanced : List Fragment → Prop where
  | nil : Balanced []
  | cons {f : Fragment} {fs : List Fragment} (hopens : f.closer? = none)
      (hcloses : f.isCloser = false) (hfs : Balanced fs) : Balanced (f :: fs)
  | bracket {f g : Fragment} {fs gs : List Fragment}
      (hcloses : g.isCloser = true) (hmatch : f.closer? = some g.text)
      (hfs : Balanced fs) (hgs : Balanced gs) : Balanced (f :: fs ++ g :: gs)

/-- Read anywhere, the fragments close what they open and nothing else. -/
def KeepsStack (v : Vocabulary) (ns : List Numbered) : Prop :=
  ∀ previous? s, findsFrames v previous? s ns = true
    ∧ (readFrom v previous? s ns).2 = s

/-- A part in two finds its frames in the first and then in the second. -/
theorem findsFrames_append (previous? : Option Fragment) (s : Stack)
    (ns ms : List Numbered) :
    findsFrames v previous? s (ns ++ ms)
      = (findsFrames v previous? s ns
        && findsFrames v (lastBefore previous? ns)
          (readFrom v previous? s ns).2 ms) := by
  induction ns generalizing previous? s with
  | nil => rfl
  | cons n ns ih =>
    rw [List.cons_append, findsFrames, findsFrames, ih, Bool.and_assoc]
    rfl

theorem KeepsStack.append {ns ms : List Numbered} (hns : KeepsStack v ns)
    (hms : KeepsStack v ms) : KeepsStack v (ns ++ ms) := by
  intro previous? s
  rw [findsFrames_append, readFrom_append_snd, (hns previous? s).1,
    (hns previous? s).2]
  exact hms _ s

/-- What is no bracket keeps the stack. -/
theorem keepsStack_of_not_bracket {n : Numbered}
    (hopens : n.fragment.closer? = none)
    (hcloses : n.fragment.isCloser = false) : KeepsStack v [n] := by
  intro previous? s
  refine ⟨?_, Stack.read_of_not_bracket previous? hopens hcloses⟩
  rw [findsFrames, hcloses]
  rfl

/-- Brackets that match keep it around a part that does. -/
theorem KeepsStack.bracket {n m : Numbered} {ns : List Numbered}
    (hcloses : m.fragment.isCloser = true)
    (hmatch : n.fragment.closer? = some m.fragment.text)
    (hns : KeepsStack v ns) : KeepsStack v (n :: ns ++ [m]) := by
  intro previous? s
  have hopens := Fragment.isCloser_of_closer? hmatch
  have hread := Stack.read_of_closer? (s := s) (v := v) previous? hmatch
  have hclose : (s.push (openedFrame v s.current previous? n.fragment)).close
      m.fragment.text = (some _, s) :=
    Stack.close_push (closer?_openedFrame s.current previous? hmatch)
  constructor
  · rw [List.cons_append, findsFrames_cons, hread, findsFrames_append,
      (hns _ _).1, (hns _ _).2, Bool.true_and, findsFrames_cons, hclose]
    refine ⟨fun h => ?_, fun _ => rfl, rfl⟩
    rw [hopens] at h
    cases h
  · rw [List.cons_append, readFrom_cons, hread, readFrom_append_snd,
      (hns _ _).2, readFrom_cons, Stack.read_of_isCloser _ hcloses, hclose]
    rfl

/-- A balanced part keeps the stack that it is read on. -/
theorem keepsStack_of_balanced {part : List Fragment} (h : Balanced part)
    (start : Nat) : KeepsStack v (significantFrom start part) := by
  induction h generalizing start with
  | nil => exact fun previous? s => ⟨rfl, rfl⟩
  | @cons f fs hopens hcloses hfs ih =>
    cases hlayout : f.kind.isLayout with
    | true =>
      rw [significantFrom_cons_of_layout _ _ hlayout]
      exact ih (start + 1)
    | false =>
      rw [significantFrom_cons_of_not_layout _ _ hlayout]
      have hf : KeepsStack v [⟨start, f⟩] :=
        keepsStack_of_not_bracket hopens hcloses
      exact hf.append (ih (start + 1))
  | @bracket f g fs gs hcloses hmatch hfs hgs ihfs ihgs =>
    have hf := Fragment.isLayout_of_closer? hmatch
    have hg := Fragment.isLayout_of_isCloser hcloses
    rw [significantFrom_append, significantFrom_cons_of_not_layout _ _ hf,
      significantFrom_cons_of_not_layout _ _ hg, List.append_cons]
    -- the brackets close each other, and the parts in and behind them keep
    have hinner : KeepsStack v (⟨start, f⟩ :: significantFrom (start + 1) fs
        ++ [⟨start + (f :: fs).length, g⟩]) :=
      KeepsStack.bracket hcloses hmatch (ihfs (start + 1))
    exact hinner.append (ihgs _)

/-- Balanced brackets are closed off. -/
theorem closedOff_of_balanced {part : List Fragment} (h : Balanced part) :
    ClosedOff v part :=
  closedOff_iff.2 (keepsStack_of_balanced h 0 none .empty).1

-- ======================================================== the frame rule

/-- Above all stacks whose current frame has the meaning of `g`, a closed-off
part becomes the same tokens and leaves the same frames. -/
theorem exists_classify_above {part : List Fragment} (hpart : ClosedOff v part)
    (g : Frame) :
    ∃ ts fs, ∀ s : Stack, s.current.Alike g →
      classify v part s = (ts, s.above fs) := by
  have hclosers : ([] : List Frame).map (·.closer?)
      = Stack.empty.frames.map (·.closer?) := rfl
  exact exists_readFrom_above g none (significantFrom 0 part) hclosers
    (closedOff_iff.1 hpart)

/-- Balanced brackets leave open what was open before. -/
theorem classify_balanced_snd {part : List Fragment} (h : Balanced part)
    (s : Stack) : (classify v part s).2 = s :=
  (keepsStack_of_balanced h 0 none s).2

/-- A part with balanced brackets becomes the same tokens above any two stacks
whose current frames have the same meaning. -/
theorem classify_balanced_fst {part : List Fragment} (h : Balanced part)
    {s₁ s₂ : Stack} (halike : s₁.current.Alike s₂.current) :
    (classify v part s₁).1 = (classify v part s₂).1 := by
  obtain ⟨ts, fs, hread⟩ :=
    exists_classify_above (v := v) (closedOff_of_balanced h) s₂.current
  rw [hread s₁ halike, hread s₂ ⟨rfl, rfl⟩]

/-- A closed-off part is read alike above any two stacks whose current frames
have the same meaning. -/
theorem classify_above (v : Vocabulary) (part : List Fragment)
    (hpart : ClosedOff v part) (s₁ s₂ : Stack)
    (halike : s₁.current.Alike s₂.current) :
    (classify v part s₁).1 = (classify v part s₂).1
      ∧ ∃ fs, (classify v part s₁).2 = s₁.above fs
        ∧ (classify v part s₂).2 = s₂.above fs
        ∧ (Balanced part → fs = []) := by
  obtain ⟨ts, fs, hread⟩ := exists_classify_above hpart s₂.current
  have h₁ : classify v part s₁ = (ts, s₁.above fs) := hread s₁ halike
  have h₂ : classify v part s₂ = (ts, s₂.above fs) := hread s₂ ⟨rfl, rfl⟩
  refine ⟨by rw [h₁, h₂], fs, by rw [h₁], by rw [h₂], fun hbalanced => ?_⟩
  have hkeeps := classify_balanced_snd (v := v) hbalanced s₁
  rw [h₁] at hkeeps
  exact Stack.eq_nil_of_above_eq hkeeps

/-- The brackets around the text of a sub-query. -/
def subquery : Stack := ⟨[⟨.topLevel, ⟨4, 5⟩, none, some "\x7d"⟩]⟩

/-- A part that closes a group over an open brace and leaves another group
open, and a balanced part, both on their own and in a sub-query. -/
theorem classify_above_groups :
    ClosedOff .builtin (scan "(\x7b)(")
      ∧ Stack.empty.current.Alike subquery.current
      ∧ (classify .builtin (scan "(\x7b)(") .empty).1
        = (classify .builtin (scan "(\x7b)(") subquery).1
      ∧ (∃ fs, (classify .builtin (scan "(\x7b)(") .empty).2
          = Stack.empty.above fs
        ∧ (classify .builtin (scan "(\x7b)(") subquery).2
          = subquery.above fs)
      ∧ Balanced (scan "()")
      ∧ (classify .builtin (scan "()") subquery).2 = subquery := by
  have halike : Stack.empty.current.Alike subquery.current := ⟨rfl, rfl⟩
  have hclosed : ClosedOff .builtin (scan "(\x7b)(") := by decide +kernel
  have hscan : scan "()"
      = [⟨.punct, ⟨0, 1⟩, "("⟩] ++ ⟨.punct, ⟨1, 2⟩, ")"⟩ :: [] := by
    decide +kernel
  have hbalanced : Balanced (scan "()") :=
    hscan ▸ .bracket rfl rfl .nil .nil
  obtain ⟨htokens, fs, hempty, hsubquery, -⟩ :=
    classify_above .builtin _ hclosed .empty subquery halike
  obtain ⟨-, gs, -, hkept, hnil⟩ := classify_above .builtin (scan "()")
    (closedOff_of_balanced hbalanced) .empty subquery halike
  refine ⟨hclosed, halike, htokens, ⟨fs, hempty, hsubquery⟩, hbalanced, ?_⟩
  rw [hkept, hnil hbalanced, Stack.above_nil]

end LogQuery
