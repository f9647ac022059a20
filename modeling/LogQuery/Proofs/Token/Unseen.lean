/-
What reading does not see.

Of a fragment that is no word and no punctuation only the kind is seen, and of
no fragment the place: offsets, and the numbers of fragments, are handed
through to tokens and frames and decide nothing. So two lists of fragments
that differ in nothing else are given the same meaning, token by token, and
leave the same brackets open but for the places where they were opened.
-/
import LogQuery.Proofs.Token.Bracket
import LogQuery.Proofs.Token.Category
import Mathlib.Data.List.Forall2

namespace LogQuery

variable {v : Vocabulary}

-- ============================================================ what is seen

/-- Reading can not tell the fragments apart. -/
structure Fragment.Alike (f g : Fragment) : Prop where
  kind : f.kind = g.kind
  text : f.kind = .word ∨ f.kind = .punct → f.text = g.text

/-- The frame with nothing said about where it was opened. -/
def Frame.unplaced (f : Frame) : Frame := { f with openedAt := ⟨0, 0⟩ }

/-- The stack with nothing said about where its frames were opened. -/
def Stack.unplaced (s : Stack) : Stack := ⟨s.frames.map (·.unplaced)⟩

/-- What a token says of its text. -/
structure Meaning where
  category : Category
  context : Context
  functionName? : Option String
deriving DecidableEq, Repr

/-- The meaning that a token gives to its text. -/
def Token.meaning (t : Token) : Meaning :=
  ⟨t.category, t.context, t.functionName?⟩

theorem Fragment.Alike.refl (f : Fragment) : f.Alike f := ⟨rfl, fun _ => rfl⟩

/-- Frames that differ in places at most give the same meaning. -/
theorem Frame.alike_of_unplaced {f g : Frame} (h : f.unplaced = g.unplaced) :
    f.Alike g := by
  obtain ⟨context, place, name, closer⟩ := f
  obtain ⟨context', place', name', closer'⟩ := g
  obtain ⟨rfl, -, rfl, rfl⟩ := Frame.mk.inj h
  exact ⟨rfl, rfl⟩

-- ============================================================== fragments

namespace Fragment.Alike

variable {f g : Fragment}

theorem isPunct (h : f.Alike g) (mark : String) :
    f.isPunct mark = g.isPunct mark := by
  by_cases hpunct : f.kind = .punct
  · rw [Fragment.isPunct, Fragment.isPunct, ← h.kind, h.text (Or.inr hpunct)]
  · simp [Fragment.isPunct, ← h.kind, hpunct]

theorem closer? (h : f.Alike g) : f.closer? = g.closer? := by
  rw [Fragment.closer?, Fragment.closer?, h.isPunct, h.isPunct]

theorem isCloser (h : f.Alike g) : f.isCloser = g.isCloser := by
  rw [Fragment.isCloser, Fragment.isCloser, h.isPunct, h.isPunct]

/-- Closing brackets that are alike have the same text. -/
theorem text_of_isCloser (h : f.Alike g) (hcloses : f.isCloser = true) :
    f.text = g.text := by
  refine h.text (Or.inr ?_)
  rcases isCloser_iff.1 hcloses with hmark | hmark
  all_goals exact (isPunct_iff.1 hmark).1

theorem word? (h : f.Alike g) : f.word? = g.word? := by
  by_cases hword : f.kind = .word
  · rw [Fragment.word?, Fragment.word?, ← h.kind, h.text (Or.inl hword)]
  · simp [Fragment.word?, ← h.kind, hword]

/-- What is said of the text of words alone is said of both or of none. -/
theorem readsFunction (h : f.Alike g) :
    v.readsFunction f = v.readsFunction g := by
  by_cases hword : f.kind = .word
  · rw [Vocabulary.readsFunction, Vocabulary.readsFunction, ← h.kind,
      h.text (Or.inl hword)]
  · simp [Vocabulary.readsFunction, ← h.kind, hword]

/-- Fragments that are alike are operators alike. -/
theorem readsOperator (h : f.Alike g) :
    v.readsOperator f = v.readsOperator g := by
  by_cases hseen : f.kind = .word ∨ f.kind = .punct
  · rw [Vocabulary.readsOperator, Vocabulary.readsOperator, ← h.kind,
      h.text hseen]
  · rw [not_or] at hseen
    simp [Vocabulary.readsOperator, ← h.kind, hseen]

theorem readsComparison (h : f.Alike g) :
    v.readsComparison f = v.readsComparison g := by
  by_cases hseen : f.kind = .word ∨ f.kind = .punct
  · rw [Vocabulary.readsComparison, Vocabulary.readsComparison, ← h.kind,
      h.text hseen]
  · rw [not_or] at hseen
    simp [Vocabulary.readsComparison, ← h.kind, hseen]

end Fragment.Alike

/-- Neighbours that can not be told apart, or none on either side. -/
abbrev NeighboursAlike : Option Fragment → Option Fragment → Prop :=
  Option.Rel Fragment.Alike

/-- Neighbours that are alike answer alike. -/
theorem any_of_neighboursAlike {previous? previous?' : Option Fragment}
    {p : Fragment → Bool} (hp : ∀ f g, f.Alike g → p f = p g)
    (h : NeighboursAlike previous? previous?') :
    previous?.any p = previous?'.any p := by
  cases h with
  | none => rfl
  | some hfg => exact hp _ _ hfg

/-- A category depends on nothing that is not seen. -/
theorem categorize_alike {frame frame' : Frame}
    {previous? previous?' next? next?' : Option Fragment} {f g : Fragment}
    (hframe : frame.context = frame'.context)
    (hprevious : NeighboursAlike previous? previous?')
    (hnext : NeighboursAlike next? next?') (h : f.Alike g) :
    categorize v frame previous? next? f
      = categorize v frame' previous?' next?' g := by
  have hparen := any_of_neighboursAlike (fun _ _ h => h.isPunct "(") hnext
  have hassign := any_of_neighboursAlike (fun _ _ h => h.isPunct "=") hnext
  have hcompared := any_of_neighboursAlike
    (fun _ _ h => h.readsComparison (v := v)) hprevious
  have hcompares := any_of_neighboursAlike
    (fun _ _ h => h.readsComparison (v := v)) hnext
  simp only [categorize, hframe, hparen, hassign, hcompared, hcompares,
    h.readsFunction, h.readsOperator, h.kind]

-- ================================================================= frames

section

variable {current current' : Frame} {previous? previous?' : Option Fragment}
variable {f g : Fragment}

/-- Parentheses open frames that differ in places at most. -/
theorem unplaced_parenFrame (f g : Fragment)
    (hcurrent : current.unplaced = current'.unplaced)
    (hprevious : NeighboursAlike previous? previous?') :
    (parenFrame v current previous? f).unplaced
      = (parenFrame v current' previous?' g).unplaced := by
  have halike := Frame.alike_of_unplaced hcurrent
  cases hprevious with
  | none =>
    simp only [parenFrame, Option.filter_none, Frame.unplaced, halike.context,
      halike.functionName?]
  | @some w w' hww =>
    cases hfunction : v.readsFunction w with
    | true =>
      -- a function is a word, so both have the same name
      have hword := (readsFunction_iff.1 hfunction).1
      rw [parenFrame_of_readsFunction _ _ hfunction,
        parenFrame_of_readsFunction _ _ (hww.readsFunction ▸ hfunction),
        hww.text (Or.inl hword)]
      rfl
    | false =>
      have hother : ∀ u ∈ some w, v.readsFunction u = false := by
        rintro u ⟨⟩
        exact hfunction
      have hother' : ∀ u ∈ some w', v.readsFunction u = false := by
        rintro u ⟨⟩
        exact hww.readsFunction ▸ hfunction
      rw [parenFrame_of_not_readsFunction _ _ hother,
        parenFrame_of_not_readsFunction _ _ hother', Frame.unplaced,
        Frame.unplaced, halike.context, halike.functionName?]

/-- And so do braces. -/
theorem unplaced_braceFrame (f g : Fragment)
    (hprevious : NeighboursAlike previous? previous?') :
    (braceFrame previous? f).unplaced = (braceFrame previous?' g).unplaced := by
  have hword : previous?.bind Fragment.word?
      = previous?'.bind Fragment.word? := by
    cases hprevious with
    | none => rfl
    | some hww => exact hww.word?
  rw [braceFrame, braceFrame, hword]
  rfl

/-- What a bracket opens depends, but for the place, on nothing that is not
seen. -/
theorem unplaced_openedFrame (h : f.Alike g)
    (hcurrent : current.unplaced = current'.unplaced)
    (hprevious : NeighboursAlike previous? previous?') :
    (openedFrame v current previous? f).unplaced
      = (openedFrame v current' previous?' g).unplaced := by
  rw [openedFrame, openedFrame, h.isPunct]
  split
  · exact unplaced_parenFrame f g hcurrent hprevious
  · exact unplaced_braceFrame f g hprevious

end

namespace Stack

variable {s t : Stack}

theorem unplaced_push (s : Stack) (f : Frame) :
    (s.push f).unplaced = s.unplaced.push f.unplaced := rfl

/-- The innermost frame without its place. -/
theorem unplaced_current (s : Stack) :
    s.current.unplaced = s.unplaced.current := by
  obtain ⟨fs⟩ := s
  cases fs with
  | nil => rfl
  | cons f fs => rfl

/-- Which frame is closed does not depend on where frames were opened. -/
theorem unplaced_close (s : Stack) (closer : String) :
    (s.close closer).2.unplaced = (s.unplaced.close closer).2 := by
  have hdrop : s.unplaced.frames.dropWhile (·.closer? ≠ some closer)
      = (s.frames.dropWhile (·.closer? ≠ some closer)).map (·.unplaced) :=
    List.dropWhile_map ..
  cases hs : s.frames.dropWhile (·.closer? ≠ some closer) with
  | nil =>
    rw [hs, List.map_nil] at hdrop
    rw [close, close, hs, hdrop]
  | cons f fs =>
    rw [hs, List.map_cons] at hdrop
    rw [close_of_dropWhile hs, close_of_dropWhile hdrop]
    rfl

/-- One fragment leaves stacks that differ in places with such stacks
again. -/
theorem unplaced_read {previous? previous?' : Option Fragment}
    {f g : Fragment} (hs : s.unplaced = t.unplaced)
    (hprevious : NeighboursAlike previous? previous?') (h : f.Alike g) :
    (s.read v previous? f).unplaced = (t.read v previous?' g).unplaced := by
  have hcurrent : s.current.unplaced = t.current.unplaced := by
    rw [unplaced_current, unplaced_current, hs]
  cases hopens : f.closer? with
  | some closer =>
    rw [read_of_closer? _ hopens, read_of_closer? _ (h.closer? ▸ hopens),
      unplaced_push, unplaced_push, hs,
      unplaced_openedFrame h hcurrent hprevious]
  | none =>
    cases hcloses : f.isCloser with
    | true =>
      rw [read_of_isCloser _ hcloses,
        read_of_isCloser _ (h.isCloser ▸ hcloses), unplaced_close,
        unplaced_close, hs, h.text_of_isCloser hcloses]
    | false =>
      rw [read_of_not_bracket _ hopens hcloses,
        read_of_not_bracket _ (h.closer? ▸ hopens) (h.isCloser ▸ hcloses), hs]

end Stack

-- =================================================================== runs

/-- Fragments that can not be told apart, one by one, are given the same
meaning, and the brackets that they leave open differ in places at most. -/
theorem readFrom_alike {s t : Stack} {previous? previous?' : Option Fragment}
    {ns ms : List Numbered} (hs : s.unplaced = t.unplaced)
    (hprevious : NeighboursAlike previous? previous?')
    (h : List.Forall₂ (fun n m => n.fragment.Alike m.fragment) ns ms) :
    (readFrom v previous? s ns).1.map (·.meaning)
        = (readFrom v previous?' t ms).1.map (·.meaning)
      ∧ (readFrom v previous? s ns).2.unplaced
        = (readFrom v previous?' t ms).2.unplaced := by
  induction h generalizing s t previous? previous?' with
  | nil => exact ⟨rfl, hs⟩
  | @cons n m ns ms hnm hrest ih =>
    have hcurrent : s.current.unplaced = t.current.unplaced := by
      rw [Stack.unplaced_current, Stack.unplaced_current, hs]
    -- the fragment behind is alike too
    have hnext : NeighboursAlike (ns.head?.map (·.fragment))
        (ms.head?.map (·.fragment)) := by
      cases hrest with
      | nil => exact .none
      | cons hnext _ => exact .some hnext
    obtain ⟨htokens, hstacks⟩ :=
      ih (Stack.unplaced_read (v := v) hs hprevious hnm) (.some hnm)
    have halike := Frame.alike_of_unplaced hcurrent
    have hcategory :=
      categorize_alike (v := v) halike.context hprevious hnext hnm
    rw [readFrom_cons, readFrom_cons]
    refine ⟨?_, hstacks⟩
    rw [List.map_cons, List.map_cons, htokens]
    simp only [Token.meaning, Numbered.token, hcategory, halike.context,
      halike.functionName?]

/-- Layout fragments, and all places and numbers, are not seen. -/
theorem classify_alike {s t : Stack} {fs gs : List Fragment}
    (hs : s.unplaced = t.unplaced)
    (h : List.Forall₂ Fragment.Alike (significant fs) (significant gs)) :
    (classify v fs s).1.map (·.meaning) = (classify v gs t).1.map (·.meaning)
      ∧ (classify v fs s).2.unplaced = (classify v gs t).2.unplaced := by
  rw [← map_fragment_significantFrom 0, ← map_fragment_significantFrom 0,
    List.forall₂_map_left_iff, List.forall₂_map_right_iff] at h
  exact readFrom_alike hs .none h

/-- The texts of tokens are those of the fragments that are no layout. -/
theorem map_text_classify (v : Vocabulary) (fs : List Fragment) (s : Stack) :
    (classify v fs s).1.map (·.text) = (significant fs).map (·.text) := by
  rw [← map_fragment_significantFrom 0, List.map_map]
  exact map_place_classify (fun _ _ text => text) v fs s

/-- What reading sees of a fragment: its kind, and the text if it is a word or
punctuation. -/
def Fragment.look (f : Fragment) : Fragment.Kind × Option String :=
  (f.kind, if f.kind = .word ∨ f.kind = .punct then some f.text else none)

/-- Fragments look the same exactly if they are alike. -/
theorem Fragment.look_eq_iff {f g : Fragment} :
    f.look = g.look ↔ f.Alike g := by
  unfold look
  constructor
  · intro h
    obtain ⟨hkind, htext⟩ := Prod.mk.inj h
    refine ⟨hkind, fun hseen => ?_⟩
    rw [if_pos hseen, if_pos (hkind ▸ hseen)] at htext
    exact Option.some.inj htext
  · rintro ⟨hkind, htext⟩
    by_cases hseen : f.kind = .word ∨ f.kind = .punct
    · rw [if_pos hseen, if_pos (hkind ▸ hseen), hkind, htext hseen]
    · rw [if_neg hseen, if_neg (hkind ▸ hseen), hkind]

/-- Only the kinds of fragments and the texts of words and punctuation are
read. Where two lists show the same of these, layout left out, and brackets
of the same meaning are open at first, each token has the same meaning in both
and brackets of the same meaning are left open. What stands in comments,
strings, numbers and regular expressions, all offsets and all layout decide
nothing. -/
theorem only_words_and_marks_are_read (v : Vocabulary)
    (fs gs : List Fragment) (s t : Stack)
    (hlooks : (significant fs).map Fragment.look
      = (significant gs).map Fragment.look)
    (hstacks : s.unplaced = t.unplaced) :
    (classify v fs s).1.map (·.meaning) = (classify v gs t).1.map (·.meaning)
      ∧ (classify v fs s).2.unplaced = (classify v gs t).2.unplaced := by
  rw [← List.forall₂_eq_eq_eq, List.forall₂_map_left_iff,
    List.forall₂_map_right_iff] at hlooks
  exact classify_alike hstacks
    (hlooks.imp fun _ _ hlook => Fragment.look_eq_iff.1 hlook)

/-- Brackets, operators and names inside strings, regular expressions and
comments, also of a vocabulary that has such texts among its names and
operators. -/
theorem only_words_and_marks_are_read_names :
    let v := Vocabulary.ofParts (.ofList ["f", "1", "\"(\""])
      ["=", "1", "\"(\"", "/\x7d/"] .empty .empty
    let fs := scan "f(by=\"(\", 1, /\x7d/) // =)\n\x7b"
    let gs := scan "f ( by =\n\")\" , 22, /f\\/(/i) /* f( */\x7b"
    let s : Stack := ⟨[⟨.functionArgs, ⟨0, 1⟩, some "g", some ")"⟩]⟩
    let t : Stack := ⟨[⟨.functionArgs, ⟨7, 8⟩, some "g", some ")"⟩]⟩
    (significant fs).map Fragment.look = (significant gs).map Fragment.look
      ∧ s.unplaced = t.unplaced
      ∧ (classify v fs s).1.map (·.meaning)
        = (classify v gs t).1.map (·.meaning)
      ∧ (classify v fs s).2.unplaced = (classify v gs t).2.unplaced
      ∧ (classify v fs s).1.map (·.category)
        = [.function, .plain, .argKey, .operator, .value, .plain, .plain,
          .plain, .regex, .plain, .comment, .plain] := by
  intro v fs gs s t
  have hlooks : (significant fs).map Fragment.look
      = (significant gs).map Fragment.look := by decide +kernel
  have hstacks : s.unplaced = t.unplaced := by decide
  obtain ⟨htokens, hleft⟩ :=
    only_words_and_marks_are_read v fs gs s t hlooks hstacks
  exact ⟨hlooks, hstacks, htokens, hleft, by decide +kernel⟩

end LogQuery
