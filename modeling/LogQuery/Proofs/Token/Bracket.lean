/-
What brackets do to the stack.

A fragment opens a frame, closes one, or is no bracket, and never two of
these. An opening bracket takes from the frame around it only the meaning of
the text; which text closes it is fixed by the bracket alone.
-/
import LogQuery.Proofs.Stack
import LogQuery.Proofs.Token.Read

namespace LogQuery

variable {v : Vocabulary}

-- ================================================================ brackets

/-- The text that closes what an opening bracket opens. -/
def Fragment.closer? (f : Fragment) : Option String :=
  if f.isPunct "(" then some ")"
  else if f.isPunct "\x7b" then some "\x7d"
  else none

/-- The fragment is a closing bracket. -/
def Fragment.isCloser (f : Fragment) : Bool :=
  f.isPunct ")" || f.isPunct "\x7d"

/-- The frame that an opening bracket opens. -/
def openedFrame (v : Vocabulary) (current : Frame) (previous? : Option Fragment)
    (f : Fragment) : Frame :=
  if f.isPunct "(" then parenFrame v current previous? f
  else braceFrame previous? f

namespace Fragment

variable {f : Fragment} {closer : String}

/-- A mark is a punctuation fragment with its text. -/
theorem isPunct_iff {mark : String} :
    f.isPunct mark = true ↔ f.kind = .punct ∧ f.text = mark := by
  rw [isPunct, Bool.and_eq_true, decide_eq_true_eq, decide_eq_true_eq]

theorem isLayout_of_isPunct {mark : String} (h : f.isPunct mark = true) :
    f.kind.isLayout = false := by
  rw [(isPunct_iff.1 h).1]
  rfl

/-- A closing bracket is a parenthesis or a brace. -/
theorem isCloser_iff :
    f.isCloser = true ↔ f.isPunct ")" = true ∨ f.isPunct "\x7d" = true := by
  rw [isCloser, Bool.or_eq_true]

/-- An opening bracket with the bracket that matches. -/
theorem closer?_cases (h : f.closer? = some closer) :
    (f.isPunct "(" = true ∧ closer = ")")
      ∨ (f.isPunct "\x7b" = true ∧ closer = "\x7d") := by
  unfold closer? at h
  by_cases hparen : f.isPunct "(" = true
  · rw [if_pos hparen] at h
    exact Or.inl ⟨hparen, (Option.some.inj h).symm⟩
  rw [if_neg hparen] at h
  by_cases hbrace : f.isPunct "\x7b" = true
  · rw [if_pos hbrace] at h
    exact Or.inr ⟨hbrace, (Option.some.inj h).symm⟩
  rw [if_neg hbrace] at h
  cases h

/-- What has a closer is an opening bracket. -/
theorem isPunct_of_closer? (h : f.closer? = some closer) :
    f.isPunct "(" = true ∨ f.isPunct "\x7b" = true :=
  (closer?_cases h).imp And.left And.left

theorem not_isPunct_of_closer? (h : f.closer? = none) :
    ¬ f.isPunct "(" = true ∧ ¬ f.isPunct "\x7b" = true := by
  unfold closer? at h
  by_cases hparen : f.isPunct "(" = true
  · rw [if_pos hparen] at h
    cases h
  rw [if_neg hparen] at h
  by_cases hbrace : f.isPunct "\x7b" = true
  · rw [if_pos hbrace] at h
    cases h
  exact ⟨hparen, hbrace⟩

/-- What is no opening bracket has no closer. -/
theorem closer?_of_not_isPunct (hparen : ¬ f.isPunct "(" = true)
    (hbrace : ¬ f.isPunct "\x7b" = true) : f.closer? = none := by
  rw [closer?, if_neg hparen, if_neg hbrace]

theorem isLayout_of_isCloser (h : f.isCloser = true) :
    f.kind.isLayout = false := by
  rcases isCloser_iff.1 h with h | h
  all_goals exact isLayout_of_isPunct h

theorem isLayout_of_closer? (h : f.closer? = some closer) :
    f.kind.isLayout = false := by
  rcases isPunct_of_closer? h with h | h
  all_goals exact isLayout_of_isPunct h

/-- A fragment is at most one mark. -/
theorem not_isPunct_of_ne {mark mark' : String} (h : f.isPunct mark = true)
    (hne : mark ≠ mark') : ¬ f.isPunct mark' = true := by
  intro h'
  exact hne ((isPunct_iff.1 h).2.symm.trans (isPunct_iff.1 h').2)

/-- No bracket both opens and closes. -/
theorem closer?_of_isCloser (h : f.isCloser = true) : f.closer? = none := by
  rcases isCloser_iff.1 h with h | h
  all_goals
    exact closer?_of_not_isPunct (not_isPunct_of_ne h (by decide))
      (not_isPunct_of_ne h (by decide))

/-- No bracket both opens and closes. -/
theorem isCloser_of_closer? (h : f.closer? = some closer) :
    f.isCloser = false := by
  rw [Bool.eq_false_iff]
  intro hcloses
  rw [closer?_of_isCloser hcloses] at h
  cases h

end Fragment

-- ================================================ what a bracket does

/-- Right behind a function name, a parenthesis opens the frame of its call. -/
theorem parenFrame_of_readsFunction {g : Fragment} (current : Frame)
    (paren : Fragment) (h : v.readsFunction g = true) :
    parenFrame v current (some g) paren
      = ⟨.functionArgs, paren.span, some g.text, some ")"⟩ := by
  rw [parenFrame, Option.filter_some_pos h]

/-- Everywhere else, its frame goes on with what stands around it. -/
theorem parenFrame_of_not_readsFunction {previous? : Option Fragment}
    (current : Frame) (paren : Fragment)
    (h : ∀ g ∈ previous?, v.readsFunction g = false) :
    parenFrame v current previous? paren
      = ⟨current.context, paren.span, current.functionName?, some ")"⟩ := by
  have hnone : previous?.filter v.readsFunction = none :=
    Option.filter_eq_none_iff.2 fun g hg => by simp [h g hg]
  rw [parenFrame, hnone]

/-- What the frame of a parenthesis is: one of a call, if a function name
stands right before, and otherwise one like that around it. -/
theorem parenFrame_cases (v : Vocabulary) (current : Frame)
    (previous? : Option Fragment) (paren : Fragment) :
    (∃ g, previous? = some g ∧ v.readsFunction g = true
        ∧ parenFrame v current previous? paren
          = ⟨.functionArgs, paren.span, some g.text, some ")"⟩)
      ∨ ((∀ g ∈ previous?, v.readsFunction g = false)
        ∧ parenFrame v current previous? paren
          = ⟨current.context, paren.span, current.functionName?,
            some ")"⟩) := by
  cases hfilter : previous?.filter v.readsFunction with
  | some g =>
    obtain ⟨rfl, hg⟩ := Option.filter_eq_some_iff.1 hfilter
    exact Or.inl ⟨g, rfl, hg, parenFrame_of_readsFunction current paren hg⟩
  | none =>
    have hnone : ∀ g ∈ previous?, v.readsFunction g = false := fun g hg =>
      Bool.eq_false_iff.2 (Option.filter_eq_none_iff.1 hfilter g hg)
    exact Or.inr ⟨hnone, parenFrame_of_not_readsFunction current paren hnone⟩

theorem openedAt_openedFrame (current : Frame) (previous? : Option Fragment)
    (f : Fragment) : (openedFrame v current previous? f).openedAt = f.span := by
  unfold openedFrame
  split
  · rcases parenFrame_cases v current previous? f with
      ⟨g, -, -, hframe⟩ | ⟨-, hframe⟩
    all_goals rw [hframe]
  · rfl

/-- The frame of a bracket has its closer. -/
theorem closer?_openedFrame {f : Fragment} {closer : String} (current : Frame)
    (previous? : Option Fragment) (h : f.closer? = some closer) :
    (openedFrame v current previous? f).closer? = some closer := by
  rw [← h, Fragment.closer?, openedFrame]
  by_cases hparen : f.isPunct "(" = true
  · rw [if_pos hparen, if_pos hparen]
    rcases parenFrame_cases v current previous? f with
      ⟨g, -, -, hframe⟩ | ⟨-, hframe⟩
    all_goals rw [hframe]
  · have hbrace := (Fragment.isPunct_of_closer? h).resolve_left hparen
    rw [if_neg hparen, if_neg hparen, if_pos hbrace]
    rfl

/-- A frame takes from the frame around it only the meaning. -/
theorem openedFrame_congr {current current' : Frame}
    (previous? : Option Fragment) (f : Fragment)
    (h : current.Alike current') :
    openedFrame v current previous? f = openedFrame v current' previous? f := by
  unfold openedFrame parenFrame
  rw [h.context, h.functionName?]

namespace Stack

variable {s : Stack} {f : Fragment}

/-- An opening bracket pushes its frame. -/
theorem read_of_closer? {closer : String} (previous? : Option Fragment)
    (h : f.closer? = some closer) :
    s.read v previous? f = s.push (openedFrame v s.current previous? f) := by
  unfold read openedFrame
  by_cases hparen : f.isPunct "(" = true
  · rw [if_pos hparen, if_pos hparen]
  · have hbrace := (Fragment.isPunct_of_closer? h).resolve_left hparen
    rw [if_neg hparen, if_neg hparen, if_pos hbrace]

/-- A closing bracket closes the frame that it matches. -/
theorem read_of_isCloser (previous? : Option Fragment)
    (h : f.isCloser = true) :
    s.read v previous? f = (s.close f.text).2 := by
  obtain ⟨hparen, hbrace⟩ :=
    Fragment.not_isPunct_of_closer? (Fragment.closer?_of_isCloser h)
  rw [read, if_neg hparen, if_neg hbrace]
  exact if_pos h

/-- Any other fragment leaves the stack alone. -/
theorem read_of_not_bracket (previous? : Option Fragment)
    (hopens : f.closer? = none) (hcloses : f.isCloser = false) :
    s.read v previous? f = s := by
  obtain ⟨hparen, hbrace⟩ := Fragment.not_isPunct_of_closer? hopens
  rw [read, if_neg hparen, if_neg hbrace]
  exact if_neg (Bool.eq_false_iff.1 hcloses)

end Stack

end LogQuery
