/-
More function names.

A name that becomes known turns a grouping parenthesis into a call, and that
changes the context of all that stands inside. It changes nothing about which
brackets are open, where they were opened and what closes them. And it changes
contexts in one direction only: what was read as a filter or as the body of a
`match` may come to be read as arguments.

So two readings of a query, with fewer and with more names, are compared frame
by frame, and what happens to a token follows from what happens to its frame.
-/
import LogQuery.Proofs.Token.Bracket
import LogQuery.Proofs.Token.Category
import LogQuery.Proofs.Token.Point
import Mathlib.Data.List.Forall2

namespace LogQuery

variable {v : Vocabulary} {A B : NameSet}

-- ============================================================== known names

namespace Vocabulary

/-- The operators of the language can be had with any function names. -/
theorem ofFunctions_eq_withFunctions (A : NameSet) :
    ofFunctions A = empty.withFunctions A := rfl

/-- A function stays a function when more names are known. -/
theorem readsFunction_mono {f : Fragment} (hAB : ∀ name ∈ A, name ∈ B)
    (h : (v.withFunctions A).readsFunction f = true) :
    (v.withFunctions B).readsFunction f = true := by
  obtain ⟨hkind, hname⟩ := readsFunction_iff.1 h
  exact readsFunction_iff.2 ⟨hkind, hAB _ hname⟩

/-- A call stays a call. -/
theorem readsCall_mono {next? : Option Fragment} {f : Fragment}
    (hAB : ∀ name ∈ A, name ∈ B)
    (h : (v.withFunctions A).readsCall next? f = true) :
    (v.withFunctions B).readsCall next? f = true := by
  rw [readsCall, Bool.and_eq_true] at h ⊢
  exact ⟨readsFunction_mono hAB h.1, h.2⟩

theorem readsCall_anti {next? : Option Fragment} {f : Fragment}
    (hAB : ∀ name ∈ A, name ∈ B)
    (h : (v.withFunctions B).readsCall next? f = false) :
    (v.withFunctions A).readsCall next? f = false := by
  rw [Bool.eq_false_iff] at h ⊢
  exact fun hA => h (readsCall_mono hAB hA)

end Vocabulary

/-- What is assigned to is not called. -/
theorem readsCall_of_assigns {next? : Option Fragment} {f : Fragment}
    (h : next?.any (·.isPunct "=") = true) : v.readsCall next? f = false := by
  cases next? with
  | none => cases h
  | some g =>
    rw [Option.any_some] at h
    have hparen := Fragment.not_isPunct_of_ne h (by decide : "=" ≠ "(")
    rw [Vocabulary.readsCall, Option.any_some, Bool.eq_false_iff.2 hparen,
      Bool.and_false]

-- ============================================================ wider frames

/-- Two frames are opened at the same place and closed by the same text. -/
structure Frame.SamePlace (f g : Frame) : Prop where
  openedAt : f.openedAt = g.openedAt
  closer? : f.closer? = g.closer?

/-- At the same place, `g` reads its text as `f` does or as arguments. -/
structure Frame.Widens (f g : Frame) : Prop extends f.SamePlace g where
  context : g.context = f.context ∨ g.context = .functionArgs

/-- Frame by frame, the brackets of `t` read their text as those of `s` do or
as arguments. -/
def Stack.Widens (s t : Stack) : Prop :=
  List.Forall₂ Frame.Widens s.frames t.frames

theorem Frame.Widens.refl (f : Frame) : f.Widens f := ⟨⟨rfl, rfl⟩, Or.inl rfl⟩

/-- Whatever is kept of two lists that agree up to `R` agrees up to `R`, if
elements in `R` are kept alike. -/
theorem forall₂_dropWhile {α β : Type} {R : α → β → Prop} {p : α → Bool}
    {q : β → Bool} (hpq : ∀ a b, R a b → p a = q b) {as : List α}
    {bs : List β} (h : List.Forall₂ R as bs) :
    List.Forall₂ R (as.dropWhile p) (bs.dropWhile q) := by
  induction h with
  | nil => exact .nil
  | @cons a b as bs hab h ih =>
    cases hp : p a with
    | true =>
      rw [List.dropWhile_cons_of_pos hp,
        List.dropWhile_cons_of_pos (hpq a b hab ▸ hp)]
      exact ih
    | false =>
      rw [List.dropWhile_cons_of_neg (by simp [hp]),
        List.dropWhile_cons_of_neg (by simp [← hpq a b hab, hp])]
      exact .cons hab h

namespace Stack.Widens

variable {s t : Stack}

theorem current (h : s.Widens t) : s.current.Widens t.current := by
  obtain ⟨fs⟩ := s
  obtain ⟨gs⟩ := t
  cases h with
  | nil => exact Frame.Widens.refl .base
  | cons hfg _ => exact hfg

theorem push {f g : Frame} (h : s.Widens t) (hfg : f.Widens g) :
    (s.push f).Widens (t.push g) := .cons hfg h

/-- Frames that widen are closed alike, since they have the same closers. -/
theorem close (h : s.Widens t) (closer : String) :
    (s.close closer).2.Widens (t.close closer).2 := by
  have hdrop : List.Forall₂ Frame.Widens
      (s.frames.dropWhile (·.closer? ≠ some closer))
      (t.frames.dropWhile (·.closer? ≠ some closer)) :=
    forall₂_dropWhile (fun f g hfg => by rw [hfg.closer?]) h
  unfold Stack.close
  revert hdrop
  generalize s.frames.dropWhile _ = fs
  generalize t.frames.dropWhile _ = gs
  intro hdrop
  cases hdrop with
  | nil => exact h
  | cons _ hrest => exact hrest

end Stack.Widens

/-- What is a grouping parenthesis in front of fewer names can be a call in
front of more, but no call becomes a group. -/
theorem widens_parenFrame {f g : Frame} (hAB : ∀ name ∈ A, name ∈ B)
    (h : f.Widens g) (previous? : Option Fragment) (paren : Fragment) :
    (parenFrame (v.withFunctions A) f previous? paren).Widens
      (parenFrame (v.withFunctions B) g previous? paren) := by
  rcases parenFrame_cases (v.withFunctions A) f previous? paren with
    ⟨w, rfl, hw, hA⟩ | ⟨-, hA⟩
  · rw [hA, parenFrame_of_readsFunction _ _
      (Vocabulary.readsFunction_mono hAB hw)]
    exact ⟨⟨rfl, rfl⟩, Or.inl rfl⟩
  · rcases parenFrame_cases (v.withFunctions B) g previous? paren with
      ⟨w, -, -, hB⟩ | ⟨-, hB⟩
    · rw [hA, hB]
      exact ⟨⟨rfl, rfl⟩, Or.inr rfl⟩
    · rw [hA, hB]
      exact ⟨⟨rfl, rfl⟩, h.context⟩

/-- A bracket opens a frame that widens that of fewer names. -/
theorem widens_openedFrame {f g : Frame} (hAB : ∀ name ∈ A, name ∈ B)
    (h : f.Widens g) (previous? : Option Fragment) (bracket : Fragment) :
    (openedFrame (v.withFunctions A) f previous? bracket).Widens
      (openedFrame (v.withFunctions B) g previous? bracket) := by
  unfold openedFrame
  split
  · exact widens_parenFrame hAB h previous? bracket
  · exact Frame.Widens.refl _

/-- One fragment leads from wider frames to wider frames. -/
theorem Stack.Widens.read {s t : Stack} (hAB : ∀ name ∈ A, name ∈ B)
    (h : s.Widens t) (previous? : Option Fragment) (f : Fragment) :
    (s.read (v.withFunctions A) previous? f).Widens
      (t.read (v.withFunctions B) previous? f) := by
  cases hopens : f.closer? with
  | some closer =>
    rw [read_of_closer? _ hopens, read_of_closer? _ hopens]
    exact h.push (widens_openedFrame hAB h.current previous? f)
  | none =>
    cases hcloses : f.isCloser with
    | true =>
      rw [read_of_isCloser _ hcloses, read_of_isCloser _ hcloses]
      exact h.close f.text
    | false =>
      rw [read_of_not_bracket _ hopens hcloses,
        read_of_not_bracket _ hopens hcloses]
      exact h

-- ====================================================== growing categories

/-- What the category of a token can become when more names are known. -/
structure Category.Grows (c d : Category) : Prop where
  function : c = .function → d = .function
  comment : c = .comment ↔ d = .comment
  regex : c = .regex ↔ d = .regex
  argKey : c = .argKey → d = .argKey
  value : c = .value → d = .value ∨ d = .function
  operator : c = .operator → d = .operator ∨ d = .function
  operator_of : d = .operator → c = .operator
  filterKey_of : d = .filterKey → c = .filterKey

/-- What a token can become when more names are known: the same fragment, in a
category that has grown. -/
structure Token.Grows (t u : Token) : Prop where
  span : t.span = u.span
  fragmentIndex : t.fragmentIndex = u.fragmentIndex
  text : t.text = u.text
  category : t.category.Grows u.category

section

variable {f g : Frame} {previous? next? : Option Fragment} {fragment : Fragment}

/-- A named argument stays one. -/
theorem grows_argKey (hwider : f.Widens g)
    (h : categorize (v.withFunctions A) f previous? next? fragment = .argKey) :
    categorize (v.withFunctions B) g previous? next? fragment = .argKey := by
  obtain ⟨hcomment, hregex, -, hoperator, hplace⟩ :=
    (categorize_eq_byPlace rfl).1 h
  obtain ⟨hword, hcompares, hassigns, hcontext⟩ :=
    categorizeByPlace_eq_argKey.1 hplace
  refine (categorize_eq_byPlace rfl).2
    ⟨hcomment, hregex, readsCall_of_assigns hassigns, hoperator, ?_⟩
  refine categorizeByPlace_eq_argKey.2 ⟨hword, hcompares, hassigns, ?_⟩
  rcases hwider.context with hsame | hargs
  · exact hsame.trans hcontext
  · exact hargs

/-- A value stays one, unless it becomes a function. -/
theorem grows_value (hwider : f.Widens g)
    (h : categorize (v.withFunctions A) f previous? next? fragment = .value) :
    categorize (v.withFunctions B) g previous? next? fragment = .value
      ∨ categorize (v.withFunctions B) g previous? next? fragment
        = .function := by
  cases hcall : (v.withFunctions B).readsCall next? fragment with
  | true => exact Or.inr (categorize_eq_function.2 hcall)
  | false =>
    obtain ⟨hcomment, hregex, -, hoperator, hplace⟩ :=
      (categorize_eq_byPlace rfl).1 h
    obtain ⟨hoperand, hcompares, hbody, hkey⟩ :=
      categorizeByPlace_eq_value.1 hplace
    refine Or.inl ((categorize_eq_byPlace rfl).2
      ⟨hcomment, hregex, hcall, hoperator, ?_⟩)
    -- as a value it may stand in a call that was a group
    refine categorizeByPlace_eq_value.2 ⟨hoperand, hcompares, ?_, ?_⟩
    · rcases hwider.context with hsame | hargs
      · rwa [hsame]
      · rw [hargs]
        decide
    · intro hword hnext
      obtain ⟨hcontext, hassigns⟩ := hkey hword hnext
      rcases hwider.context with hsame | hargs
      · exact ⟨hsame.trans hcontext, hassigns⟩
      · exact ⟨hargs, hassigns⟩

/-- A filter key was one before. -/
theorem grows_filterKey (hAB : ∀ name ∈ A, name ∈ B) (hwider : f.Widens g)
    (h : categorize (v.withFunctions B) g previous? next? fragment
      = .filterKey) :
    categorize (v.withFunctions A) f previous? next? fragment
      = .filterKey := by
  obtain ⟨hcomment, hregex, hcall, hoperator, hplace⟩ :=
    (categorize_eq_byPlace rfl).1 h
  obtain ⟨hword, hcompares, hcontext⟩ :=
    categorizeByPlace_eq_filterKey.1 hplace
  refine (categorize_eq_byPlace rfl).2
    ⟨hcomment, hregex, Vocabulary.readsCall_anti hAB hcall, hoperator, ?_⟩
  refine categorizeByPlace_eq_filterKey.2 ⟨hword, hcompares, ?_⟩
  rcases hwider.context with hsame | hargs
  · exact hsame.symm.trans hcontext
  · rw [hargs] at hcontext
    cases hcontext

/-- With more names known each category grows. -/
theorem categorize_grows (hAB : ∀ name ∈ A, name ∈ B) (hwider : f.Widens g) :
    (categorize (v.withFunctions A) f previous? next? fragment).Grows
      (categorize (v.withFunctions B) g previous? next? fragment) where
  function h := by
    rw [categorize_eq_function] at h ⊢
    exact Vocabulary.readsCall_mono hAB h
  comment := by rw [categorize_eq_comment, categorize_eq_comment]
  regex := by rw [categorize_eq_regex, categorize_eq_regex]
  argKey := grows_argKey hwider
  value := grows_value hwider
  operator h := by
    obtain ⟨hoperator, -⟩ := categorize_eq_operator.1 h
    cases hcall : (v.withFunctions B).readsCall next? fragment with
    | true => exact Or.inr (categorize_eq_function.2 hcall)
    | false => exact Or.inl (categorize_eq_operator.2 ⟨hoperator, hcall⟩)
  operator_of h := by
    obtain ⟨hoperator, hcall⟩ := categorize_eq_operator.1 h
    exact categorize_eq_operator.2
      ⟨hoperator, Vocabulary.readsCall_anti hAB hcall⟩
  filterKey_of := grows_filterKey hAB hwider

end

-- ============================================================ whole queries

/-- Read with wider frames, the same fragments become tokens that have grown,
and the frames left open are wider again. -/
theorem readFrom_grows (hAB : ∀ name ∈ A, name ∈ B)
    (previous? : Option Fragment) {s t : Stack} (h : s.Widens t)
    (ns : List Numbered) :
    List.Forall₂ Token.Grows (readFrom (v.withFunctions A) previous? s ns).1
        (readFrom (v.withFunctions B) previous? t ns).1
      ∧ (readFrom (v.withFunctions A) previous? s ns).2.Widens
        (readFrom (v.withFunctions B) previous? t ns).2 := by
  induction ns generalizing previous? s t with
  | nil => exact ⟨.nil, h⟩
  | cons n ns ih =>
    obtain ⟨htokens, hstacks⟩ :=
      ih (some n.fragment) (h.read hAB previous? n.fragment)
    refine ⟨.cons ?_ htokens, hstacks⟩
    exact ⟨rfl, rfl, rfl, categorize_grows hAB h.current⟩

/-- With more function names known, a query has the same tokens in categories
that have grown, and at each point and at the end the same brackets are open:
as many, opened at the same places and closed by the same texts. -/
theorem tokens_of_more_functions (v : Vocabulary) (A B : NameSet)
    (hAB : ∀ name ∈ A, name ∈ B) (query : String) :
    List.Forall₂ Token.Grows (tokens (v.withFunctions A) query)
        (tokens (v.withFunctions B) query)
      ∧ (∀ i, List.Forall₂ Frame.SamePlace
        (openBefore (v.withFunctions A) query i).toList
        (openBefore (v.withFunctions B) query i).toList)
      ∧ List.Forall₂ Frame.SamePlace
        (classifyQuery (v.withFunctions A) query .empty).2.toList
        (classifyQuery (v.withFunctions B) query .empty).2.toList := by
  have hempty : Stack.empty.Widens .empty := .nil
  have hpoint (i : Nat) : List.Forall₂ Frame.SamePlace
      (openBefore (v.withFunctions A) query i).toList
      (openBefore (v.withFunctions B) query i).toList := by
    have hstacks := (@readFrom_grows v A B hAB none _ _ hempty
      ((significantOf query).take i)).2
    have hplaces := hstacks.imp fun _ _ hfg => hfg.toSamePlace
    exact .cons ⟨rfl, rfl⟩ (List.forall₂_reverse_iff.2 hplaces)
  have hend := hpoint (significantOf query).length
  rw [openBefore_length, openBefore_length] at hend
  exact ⟨(readFrom_grows hAB none hempty _).1, hpoint, hend⟩

/-- A name that becomes known turns a group into a call, and the filter in it
into a named argument. -/
theorem tokens_of_more_functions_call :
    let few := NameSet.ofList ["count"]
    let more := NameSet.ofList ["count", "top"]
    (∀ name ∈ few, name ∈ more)
      ∧ List.Forall₂ Token.Grows
        (tokens (.ofFunctions few) "top(count(), limit=5)")
        (tokens (.ofFunctions more) "top(count(), limit=5)")
      ∧ (∀ i, List.Forall₂ Frame.SamePlace
        (openBefore (.ofFunctions few) "top(count(), limit=5)" i).toList
        (openBefore (.ofFunctions more) "top(count(), limit=5)" i).toList)
      ∧ (tokens (.ofFunctions few) "top(count(), limit=5)").map (·.category)
        = [.plain, .plain, .function, .plain, .plain, .plain, .filterKey,
          .operator, .value, .plain]
      ∧ (tokens (.ofFunctions more) "top(count(), limit=5)").map (·.category)
        = [.function, .plain, .function, .plain, .plain, .plain, .argKey,
          .operator, .value, .plain] := by
  intro few more
  have hnames : ∀ name ∈ few, name ∈ more := by
    intro name hname
    rw [NameSet.mem_ofList, List.mem_singleton] at hname
    rw [NameSet.mem_ofList, hname]
    exact List.mem_cons_self
  obtain ⟨htokens, hplaces, -⟩ :=
    tokens_of_more_functions .empty few more hnames "top(count(), limit=5)"
  rw [← Vocabulary.ofFunctions_eq_withFunctions,
    ← Vocabulary.ofFunctions_eq_withFunctions] at htokens
  exact ⟨hnames, htokens, hplaces, by decide +kernel, by decide +kernel⟩

end LogQuery
