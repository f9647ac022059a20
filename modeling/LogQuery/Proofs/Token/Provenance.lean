/-
Where contexts come from.

The category of a function name is found by looking ahead at the parenthesis,
and the frame of that parenthesis by looking back at the name. The two agree:
a name is a function exactly if the parenthesis behind it opens its call. A
grouping parenthesis inside a call takes over the name of the call, so the
frame of a name need not be that of its call, but the call is still open around
it.

# The invariant

The frame around an open bracket stays as it is while the bracket is open. So
the open frames can be told from the query alone: each is what some bracket of
the query opens in the frame around it, and the brackets come in the order of
the frames (`Nested`). Opening a bracket adds one such frame and closing takes
inner ones away, whatever was left open in them. Everything else is read off
from this.
-/
import LogQuery.Proofs.Fragment.Partition
import LogQuery.Proofs.Token.Bracket
import LogQuery.Proofs.Token.Category
import LogQuery.Proofs.Token.Point

namespace LogQuery

variable {v : Vocabulary} {query : String} {i j k : Nat} {n m : Numbered}

-- ======================================================== nested frames

/-- The frames, innermost first, are what brackets of the query before number
`i` open, each in the frame around it. -/
inductive Nested (v : Vocabulary) (query : String) :
    Nat → List Frame → Prop where
  | base (i : Nat) : Nested v query i []
  | bracket {i j : Nat} {n : Numbered} {closer : String} {fs : List Frame}
      (hj : j < i) (hn : (significantOf query)[j]? = some n)
      (hopens : n.fragment.closer? = some closer) (hfs : Nested v query j fs) :
      Nested v query i
        (openedFrame v (Stack.mk fs).current (fragmentBefore? query j)
          n.fragment :: fs)

namespace Nested

variable {f : Frame} {fs gs : List Frame}

/-- What was opened before a point was opened before any later one. -/
theorem mono (h : Nested v query i fs) (hik : i ≤ k) :
    Nested v query k fs := by
  cases h with
  | base => exact .base k
  | bracket hj hn hopens hfs =>
    exact .bracket (Nat.lt_of_lt_of_le hj hik) hn hopens hfs

/-- The frames further out are nested too. -/
theorem tail (h : Nested v query i (f :: fs)) : Nested v query i fs := by
  cases h with
  | bracket hj hn hopens hfs => exact hfs.mono (Nat.le_of_lt hj)

theorem of_append (h : Nested v query i (gs ++ fs)) : Nested v query i fs := by
  induction gs with
  | nil => exact h
  | cons g gs ih => exact ih h.tail

end Nested

/-- Closing leaves outer frames of the stack. -/
theorem Stack.exists_append_close (s : Stack) (closer : String) :
    ∃ gs, s.frames = gs ++ (s.close closer).2.frames := by
  cases hdrop : s.frames.dropWhile (·.closer? ≠ some closer) with
  | nil =>
    refine ⟨[], ?_⟩
    rw [close, hdrop]
    rfl
  | cons g gs =>
    rw [close_of_dropWhile hdrop]
    have hsplit := @List.takeWhile_append_dropWhile Frame
      (·.closer? ≠ some closer) s.frames
    rw [hdrop, List.append_cons] at hsplit
    exact ⟨_, hsplit.symm⟩

/-- One fragment leads from nested frames to nested frames. -/
theorem Nested.read {s : Stack} (h : Nested v query i s.frames)
    (hn : (significantOf query)[i]? = some n) :
    Nested v query (i + 1)
      (s.read v (fragmentBefore? query i) n.fragment).frames := by
  have hlater := h.mono (Nat.le_succ i)
  cases hopens : n.fragment.closer? with
  | some closer =>
    rw [Stack.read_of_closer? _ hopens]
    exact .bracket (Nat.lt_succ_self i) hn hopens h
  | none =>
    cases hcloses : n.fragment.isCloser with
    | true =>
      rw [Stack.read_of_isCloser _ hcloses]
      obtain ⟨gs, hsplit⟩ := s.exists_append_close n.fragment.text
      rw [hsplit] at hlater
      exact hlater.of_append
    | false =>
      rw [Stack.read_of_not_bracket _ hopens hcloses]
      exact hlater

/-- At each point the open frames are nested. -/
theorem nested_openBefore (v : Vocabulary) (query : String) (i : Nat) :
    Nested v query i (openBefore v query i).frames := by
  induction i with
  | zero => exact .base 0
  | succ i ih =>
    cases hn : (significantOf query)[i]? with
    | some n =>
      rw [openBefore_succ hn]
      exact ih.read hn
    | none =>
      rw [openBefore_succ_of_none hn]
      exact ih.mono (Nat.le_succ i)

-- ===================================================== where frames stand

/-- The frame was opened by a bracket of the query before number `i`, and what
closes it is the bracket that matches. -/
def OpenedBefore (query : String) (i : Nat) (f : Frame) : Prop :=
  ∃ j < i, ∃ n, (significantOf query)[j]? = some n
    ∧ f.openedAt = n.fragment.span
    ∧ ((n.fragment.isPunct "(" = true ∧ f.closer? = some ")")
      ∨ (n.fragment.isPunct "\x7b" = true ∧ f.closer? = some "\x7d"))

theorem OpenedBefore.mono {f : Frame} (h : OpenedBefore query i f)
    (hik : i ≤ k) : OpenedBefore query k f := by
  obtain ⟨j, hj, hopened⟩ := h
  exact ⟨j, Nat.lt_of_lt_of_le hj hik, hopened⟩

/-- Every frame was opened before the point. -/
theorem Nested.openedBefore {fs : List Frame} (h : Nested v query i fs) :
    ∀ f ∈ fs, OpenedBefore query i f := by
  induction h with
  | base => exact fun f hf => absurd hf List.not_mem_nil
  | @bracket i j n closer fs hj hn hopens hfs ih =>
    intro f hf
    rcases List.mem_cons.1 hf with rfl | hf
    · refine ⟨j, hj, n, hn, openedAt_openedFrame _ _ _, ?_⟩
      rw [closer?_openedFrame _ _ hopens, Option.some.injEq, Option.some.injEq]
      exact Fragment.closer?_cases hopens
    · exact (ih f hf).mono (Nat.le_of_lt hj)

/-- Fragments that are no layout are in the order of the query. -/
theorem pairwise_significantFrom (start : Nat) {fs : List Fragment}
    (h : fs.Pairwise fun f g => f.span.Before g.span) :
    (significantFrom start fs).Pairwise fun n m =>
      n.fragment.span.Before m.fragment.span := by
  have hfragments : ((significantFrom start fs).map (·.fragment)).Pairwise
      fun f g => f.span.Before g.span := by
    rw [map_fragment_significantFrom]
    exact h.filter _
  rw [List.pairwise_map] at hfragments
  exact hfragments

/-- Fragments stand in the order of their numbers. -/
theorem before_of_lt (hn : (significantOf query)[i]? = some n)
    (hm : (significantOf query)[j]? = some m) (hij : i < j) :
    n.fragment.span.Before m.fragment.span := by
  obtain ⟨hi, rfl⟩ := List.getElem?_eq_some_iff.1 hn
  obtain ⟨hj, rfl⟩ := List.getElem?_eq_some_iff.1 hm
  exact List.pairwise_iff_getElem.1
    (pairwise_significantFrom 0 (pairwise_scan query)) i j hi hj hij

/-- Inner brackets stand behind outer ones. -/
theorem Nested.pairwise {fs : List Frame} (h : Nested v query i fs) :
    fs.Pairwise fun f g => g.openedAt.Before f.openedAt := by
  induction h with
  | base => exact .nil
  | @bracket i j n closer fs hj hn hopens hfs ih =>
    refine List.pairwise_cons.2 ⟨fun g hg => ?_, ih⟩
    obtain ⟨k, hk, m, hm, hopened, -⟩ := hfs.openedBefore g hg
    rw [openedAt_openedFrame, hopened]
    exact before_of_lt hm hn hk

-- ================================================== frames and their calls

/-- The frame was opened, before number `i`, by the parenthesis right behind a
token that is the function `name`. -/
def CallFrame (v : Vocabulary) (query : String) (i : Nat) (name : String)
    (f : Frame) : Prop :=
  ∃ j t n, j + 1 < i
    ∧ (tokens v query)[j]? = some t ∧ t.category = .function ∧ t.text = name
    ∧ (significantOf query)[j + 1]? = some n ∧ n.fragment.isPunct "(" = true
    ∧ f = ⟨.functionArgs, n.fragment.span, some name, some ")"⟩

/-- The frame was opened, before number `i`, by a parenthesis that does not
stand right behind a function, and goes on with the arguments of `name`. -/
def GroupFrame (v : Vocabulary) (query : String) (i : Nat) (name : String)
    (f : Frame) : Prop :=
  ∃ j n, j < i
    ∧ (significantOf query)[j]? = some n ∧ n.fragment.isPunct "(" = true
    ∧ f = ⟨.functionArgs, n.fragment.span, some name, some ")"⟩
    ∧ ∀ k t, j = k + 1 → (tokens v query)[k]? = some t →
      t.category ≠ .function

theorem CallFrame.mono {name : String} {f : Frame}
    (h : CallFrame v query i name f) (hik : i ≤ k) :
    CallFrame v query k name f := by
  obtain ⟨j, t, n, hj, hcall⟩ := h
  exact ⟨j, t, n, Nat.lt_of_lt_of_le hj hik, hcall⟩

theorem GroupFrame.mono {name : String} {f : Frame}
    (h : GroupFrame v query i name f) (hik : i ≤ k) :
    GroupFrame v query k name f := by
  obtain ⟨j, n, hj, hgroup⟩ := h
  exact ⟨j, n, Nat.lt_of_lt_of_le hj hik, hgroup⟩

/-- A token is a function if it is one by name and a parenthesis follows. -/
theorem category_eq_function_iff {t : Token}
    (hn : (significantOf query)[i]? = some n)
    (ht : (tokens v query)[i]? = some t) :
    t.category = .function
      ↔ v.readsCall ((significantOf query)[i + 1]?.map (·.fragment))
          n.fragment = true := by
  rw [getElem?_tokens hn] at ht
  obtain rfl := Option.some.inj ht
  exact categorize_eq_function

/-- Frames of arguments are those with a name. -/
def Frame.Consistent (f : Frame) : Prop :=
  f.context = .functionArgs ↔ f.functionName? ≠ none

/-- The current frame is one of the stack, or the base. -/
theorem Stack.current_mem_or (s : Stack) :
    s.current ∈ s.frames ∨ s.current = .base := by
  obtain ⟨fs⟩ := s
  cases fs with
  | nil => exact Or.inr rfl
  | cons f fs => exact Or.inl List.mem_cons_self

theorem consistent_current {s : Stack}
    (h : ∀ f ∈ s.frames, f.Consistent) : s.current.Consistent := by
  rcases s.current_mem_or with hmem | hbase
  · exact h _ hmem
  · rw [hbase]
    simp [Frame.Consistent, Frame.base]

/-- A bracket opens a frame in which context and name agree, if they do around
it. -/
theorem consistent_openedFrame {current : Frame} (h : current.Consistent)
    (previous? : Option Fragment) (f : Fragment) :
    (openedFrame v current previous? f).Consistent := by
  unfold openedFrame
  split
  · rcases parenFrame_cases v current previous? f with
      ⟨g, -, -, hframe⟩ | ⟨-, hframe⟩
    · rw [hframe]
      simp [Frame.Consistent]
    · rw [hframe]
      exact h
  · unfold braceFrame
    split
    · simp [Frame.Consistent]
    · simp [Frame.Consistent]

theorem Nested.consistent {fs : List Frame} (h : Nested v query i fs) :
    ∀ f ∈ fs, f.Consistent := by
  induction h with
  | base => exact fun f hf => absurd hf List.not_mem_nil
  | @bracket i j n closer fs hj hn hopens hfs ih =>
    have hcurrent : (Stack.mk fs).current.Consistent := consistent_current ih
    intro f hf
    rcases List.mem_cons.1 hf with rfl | hf
    · exact consistent_openedFrame hcurrent _ _
    · exact ih f hf

/-- A frame with a name is that of a call, or it goes on with the arguments
around it. -/
theorem named_openedFrame {fs : List Frame} {name : String}
    (hfs : Nested v query j fs) (hn : (significantOf query)[j]? = some n)
    (hname : (openedFrame v (Stack.mk fs).current (fragmentBefore? query j)
      n.fragment).functionName? = some name) :
    (name ∈ v.functions
        ∧ CallFrame v query (j + 1) name
          (openedFrame v (Stack.mk fs).current (fragmentBefore? query j)
            n.fragment))
      ∨ ((Stack.mk fs).current.functionName? = some name
        ∧ GroupFrame v query (j + 1) name
          (openedFrame v (Stack.mk fs).current (fragmentBefore? query j)
            n.fragment)) := by
  unfold openedFrame at hname ⊢
  split at hname
  case isFalse => cases hname
  case isTrue hparen =>
    rw [if_pos hparen]
    rcases parenFrame_cases v (Stack.mk fs).current (fragmentBefore? query j)
        n.fragment with ⟨g, hg, hfunction, hframe⟩ | ⟨hnone, hframe⟩
    · left
      rw [hframe] at hname ⊢
      obtain rfl := Option.some.inj hname
      obtain ⟨k, m, rfl, hm, rfl⟩ := exists_of_fragmentBefore? hn hg
      -- the parenthesis opens the call of the word before it
      have hcall : v.readsCall
          ((significantOf query)[k + 1]?.map (·.fragment)) m.fragment
          = true := by
        rw [Vocabulary.readsCall, hn, hfunction]
        exact hparen
      have htoken := @getElem?_tokens v query k m hm
      exact ⟨(readsFunction_iff.1 hfunction).2, k, _, n,
        Nat.lt_succ_self _, htoken,
        (category_eq_function_iff hm htoken).2 hcall, rfl, hn, hparen, rfl⟩
    · right
      rw [hframe] at hname ⊢
      -- the parenthesis opens a group, which has the name of what is around
      have haround : (Stack.mk fs).current.functionName? = some name := hname
      have hcontext : (Stack.mk fs).current.context = .functionArgs :=
        (consistent_current hfs.consistent).2 (by simp [haround])
      refine ⟨haround, j, n, Nat.lt_succ_self j, hn, hparen, ?_, ?_⟩
      · rw [hcontext, haround]
      · rintro k t rfl ht hcategory
        -- no call, so the token before the group is no function
        obtain ⟨m, hm⟩ := exists_of_getElem?_tokens ht
        have hcall := (category_eq_function_iff hm ht).1 hcategory
        rw [Vocabulary.readsCall, hnone _ (fragmentBefore?_succ hm)] at hcall
        cases hcall

/-- Around a frame with a name there is the call of that name, with nothing
but groups inside. -/
theorem Nested.exists_call {fs : List Frame} {name : String}
    (h : Nested v query i fs)
    (hname : (Stack.mk fs).current.functionName? = some name) :
    name ∈ v.functions ∧ ∃ groups call outer, fs = groups ++ call :: outer
      ∧ (∀ f ∈ groups, GroupFrame v query i name f)
      ∧ CallFrame v query i name call := by
  induction h with
  | base => cases hname
  | @bracket i j n closer fs hj hn hopens hfs ih =>
    rcases named_openedFrame hfs hn hname with
      ⟨hknown, hcall⟩ | ⟨haround, hgroup⟩
    · exact ⟨hknown, [], _, fs, rfl, fun f hf => absurd hf List.not_mem_nil,
        hcall.mono hj⟩
    · obtain ⟨hknown, groups, call, outer, rfl, hgroups, hcall⟩ := ih haround
      refine ⟨hknown, _ :: groups, call, outer, rfl, fun f hf => ?_,
        hcall.mono (Nat.le_of_lt hj)⟩
      rcases List.mem_cons.1 hf with rfl | hf
      · exact hgroup.mono hj
      · exact (hgroups f hf).mono (Nat.le_of_lt hj)

-- ========================================================== calls by name

/-- The fragment with number `i` is a parenthesis that opens a call of
`name`. -/
def OpensCall (v : Vocabulary) (query : String) (i : Nat) (name : String) :
    Prop :=
  ∃ n, (significantOf query)[i]? = some n ∧ n.fragment.isPunct "(" = true
    ∧ openBefore v query (i + 1) = (openBefore v query i).push
      ⟨.functionArgs, n.fragment.span, some name, some ")"⟩

/-- Behind a parenthesis its frame is open. -/
theorem openBefore_succ_of_paren (hn : (significantOf query)[i]? = some n)
    (hparen : n.fragment.isPunct "(" = true) :
    openBefore v query (i + 1) = (openBefore v query i).push
      (parenFrame v (openBefore v query i).current (fragmentBefore? query i)
        n.fragment) := by
  rw [openBefore_succ hn, Stack.read, if_pos hparen]

/-- Looking ahead and looking back agree: a word is a function exactly if the
next fragment opens a call of it. A group that goes on with the arguments of a
call never stands behind an unknown word of that name, since the name of the
call is known. -/
theorem category_eq_function_iff_opensCall {t : Token}
    (hn : (significantOf query)[i]? = some n) (hword : n.fragment.kind = .word)
    (ht : (tokens v query)[i]? = some t) :
    t.category = .function ↔ OpensCall v query (i + 1) t.text := by
  rw [category_eq_function_iff hn ht, text_of_getElem?_tokens hn ht,
    Vocabulary.readsCall, Bool.and_eq_true]
  constructor
  · rintro ⟨hfunction, hparen⟩
    cases hm : (significantOf query)[i + 1]? with
    | none =>
      rw [hm] at hparen
      cases hparen
    | some m =>
      rw [hm] at hparen
      refine ⟨m, hm, hparen, ?_⟩
      rw [openBefore_succ_of_paren hm hparen, fragmentBefore?_succ hn,
        parenFrame_of_readsFunction _ _ hfunction]
  · rintro ⟨m, hm, hparen, hopen⟩
    rw [hm]
    refine ⟨?_, hparen⟩
    by_contra hfunction
    have hother : ∀ g ∈ some n.fragment, v.readsFunction g = false := by
      rintro g ⟨⟩
      exact Bool.eq_false_iff.2 hfunction
    -- a group of that name, so the name is known from the call around it
    rw [openBefore_succ_of_paren hm hparen, fragmentBefore?_succ hn,
      parenFrame_of_not_readsFunction _ _ hother] at hopen
    have hsame := (List.cons.inj (congrArg Stack.frames hopen)).1
    obtain ⟨hknown, -⟩ := (nested_openBefore v query (i + 1)).exists_call
      (congrArg Frame.functionName? hsame)
    exact hfunction (readsFunction_iff.2 ⟨hword, hknown⟩)

-- ============================================================= provenance

/-- Where the frames that are open at a point come from. -/
structure Provenance (v : Vocabulary) (query : String) (i : Nat) : Prop where
  /-- Each was opened by a bracket before, and the matching one closes it. -/
  opened : ∀ f ∈ (openBefore v query i).frames, OpenedBefore query i f
  /-- From the outermost to the innermost, the brackets stand in order. -/
  increasing : (openBefore v query i).frames.reverse.Pairwise
    fun f g => f.openedAt.Before g.openedAt
  /-- Frames of arguments are those with a name. -/
  named : ∀ f ∈ (openBefore v query i).frames,
    f.context = .functionArgs ↔ f.functionName? ≠ none
  /-- A name is known, and at the frame or around it is the frame of a call
  of the name, with nothing but groups inside. -/
  called : ∀ inner f outer name,
    (openBefore v query i).frames = inner ++ f :: outer →
    f.functionName? = some name →
      name ∈ v.functions ∧ ∃ groups call rest,
        f :: outer = groups ++ call :: rest
          ∧ (∀ g ∈ groups, GroupFrame v query i name g)
          ∧ CallFrame v query i name call

/-- At each point the frames come from brackets of the query. -/
theorem provenance (v : Vocabulary) (query : String) (i : Nat) :
    Provenance v query i where
  opened := (nested_openBefore v query i).openedBefore
  increasing := List.pairwise_reverse.2 (nested_openBefore v query i).pairwise
  named := (nested_openBefore v query i).consistent
  called inner f outer name hframes hname := by
    have hnested := nested_openBefore v query i
    rw [hframes] at hnested
    exact hnested.of_append.exists_call hname

/-- Contexts come from brackets that are open. A word is a function exactly if
the next fragment opens its call. At each point the frames are where brackets
were opened, and a frame of arguments goes back to an open call. So a token
among arguments names a function that was called before it and whose call is
not closed yet. -/
theorem contexts_come_from_calls (v : Vocabulary) (query : String) :
    (∀ i n t, (significantOf query)[i]? = some n → n.fragment.kind = .word →
        (tokens v query)[i]? = some t →
        (t.category = .function ↔ OpensCall v query (i + 1) t.text)
          ∧ (t.category = .function → t.text ∈ v.functions))
      ∧ (∀ i, Provenance v query i)
      ∧ ∀ i t, (tokens v query)[i]? = some t → t.context = .functionArgs →
        ∃ name, t.functionName? = some name
          ∧ ∃ call ∈ (openBefore v query i).frames,
            CallFrame v query i name call := by
  refine ⟨?_, provenance v query, ?_⟩
  · intro i n t hn hword ht
    refine ⟨category_eq_function_iff_opensCall hn hword ht, fun h => ?_⟩
    rw [category_eq_function_iff hn ht, Vocabulary.readsCall,
      Bool.and_eq_true] at h
    rw [text_of_getElem?_tokens hn ht]
    exact (readsFunction_iff.1 h.1).2
  · intro i t ht hcontext
    obtain ⟨n, hn⟩ := exists_of_getElem?_tokens ht
    rw [getElem?_tokens hn] at ht
    obtain rfl := Option.some.inj ht
    have hnested := nested_openBefore v query i
    obtain ⟨name, hname⟩ := Option.ne_none_iff_exists'.1
      ((consistent_current hnested.consistent).1 hcontext)
    -- the current frame is a group in a call, or that call
    obtain ⟨-, groups, call, outer, hframes, -, hcall⟩ :=
      hnested.exists_call hname
    refine ⟨name, hname, call, ?_, hcall⟩
    rw [hframes]
    exact List.mem_append_right _ List.mem_cons_self

/-- A named argument in a group in a call: its name comes from the frame of
the group, and the call is open around that. -/
theorem contexts_come_from_calls_group :
    let v := Vocabulary.ofFunctions (.ofList ["count"])
    (significantOf "count((by=1")[0]?
        = some ⟨0, ⟨.word, ⟨0, 5⟩, "count"⟩⟩
      ∧ (tokens v "count((by=1")[0]?
        = some ⟨⟨0, 5⟩, .function, 0, "count", .topLevel, none⟩
      ∧ OpensCall v "count((by=1" 1 "count"
      ∧ Provenance v "count((by=1" 3
      ∧ (tokens v "count((by=1")[3]?
        = some ⟨⟨7, 9⟩, .argKey, 3, "by", .functionArgs, some "count"⟩
      ∧ ∃ call ∈ (openBefore v "count((by=1" 3).frames,
        CallFrame v "count((by=1" 3 "count" call := by
  intro v
  have hword : (significantOf "count((by=1")[0]?
      = some ⟨0, ⟨.word, ⟨0, 5⟩, "count"⟩⟩ := by decide +kernel
  have hcount : (tokens v "count((by=1")[0]?
      = some ⟨⟨0, 5⟩, .function, 0, "count", .topLevel, none⟩ := by
    decide +kernel
  have hby : (tokens v "count((by=1")[3]?
      = some ⟨⟨7, 9⟩, .argKey, 3, "by", .functionArgs, some "count"⟩ := by
    decide +kernel
  obtain ⟨hfunction, hprovenance, hcontext⟩ :=
    contexts_come_from_calls v "count((by=1"
  obtain ⟨name, hname, hcall⟩ := hcontext 3 _ hby rfl
  obtain rfl := Option.some.inj hname
  exact ⟨hword, hcount, (hfunction 0 _ _ hword rfl hcount).1.1 rfl,
    hprovenance 3, hby, hcall⟩

end LogQuery
