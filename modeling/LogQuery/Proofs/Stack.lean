/-
The base of the stack under every sequence of operations.

A stack does not store its base, so nothing can take the base away. In a plain
list of frames, with the base as its first one, nothing protects it but the
operations: taking off stops at length one, and the search for a frame to
close stops before the first place (`Op.onList`). Here both are run side by
side. One operation gives the same on either side and leaves the same frames
(`onList_toList`), so after any sequence the list is that of the stack
(`listAfter_toList`), and it starts with the base.

Closing is told by taking off: what `close` gives and leaves is what is left
when frames are taken off one by one until the first that the closer closes
(`close_eq_some_iff`). If there is none, taking off would go on down to the
base, and `close` does nothing at all.

The proofs go by the last push: a stack is empty or a push on a smaller one.
-/
import LogQuery.Stack
import Mathlib.Data.List.Find

namespace LogQuery.Stack

variable {s t : Stack} {f g : Frame} {closer : String}

-- ============================================================== operations

/-- What can be done to a stack. -/
inductive Op where
  | push (f : Frame)
  | pop
  | close (closer : String)

/-- What an operation gives, and the stack it leaves. -/
def step (s : Stack) : Op → Option Frame × Stack
  | .push f => (none, s.push f)
  | .pop => s.pop
  | .close closer => s.close closer

/-- The stack after operations. -/
def after (s : Stack) (ops : List Op) : Stack :=
  ops.foldl (fun s op => (s.step op).2) s

/-- Every stack is the empty one or a push on another one. -/
@[elab_as_elim]
theorem push_induction {P : Stack → Prop} (empty : P .empty)
    (push : ∀ s f, P s → P (s.push f)) (s : Stack) : P s := by
  obtain ⟨frames⟩ := s
  induction frames with
  | nil => exact empty
  | cons f fs ih => exact push ⟨fs⟩ f ih

-- ================================================================= views

@[simp] theorem toList_empty : empty.toList = [.base] := rfl

/-- A new frame is the last of the list. -/
@[simp] theorem toList_push (s : Stack) (f : Frame) :
    (s.push f).toList = s.toList ++ [f] := by
  simp [toList, push]

theorem toList_ne_nil (s : Stack) : s.toList ≠ [] :=
  List.cons_ne_nil _ _

theorem length_toList (s : Stack) : s.toList.length = s.size := by
  rw [toList, List.length_cons, List.length_reverse]
  rfl

/-- The frames above the base, as the list has them. -/
theorem mem_tail_toList : f ∈ s.toList.tail ↔ f ∈ s.frames :=
  List.mem_reverse

/-- The frames above the base, with a new one. -/
theorem mem_tail_toList_push :
    g ∈ (s.push f).toList.tail ↔ g = f ∨ g ∈ s.toList.tail := by
  rw [mem_tail_toList, mem_tail_toList]
  exact List.mem_cons

-- ============================================================= taking off

@[simp] theorem pop_push (s : Stack) (f : Frame) :
    (s.push f).pop = (some f, s) := rfl

/-- Nothing is popped exactly if only the base is left. -/
theorem pop_eq_none_iff : s.pop.1 = none ↔ s.depth = 0 := by
  cases s using push_induction with
  | empty => exact ⟨fun _ => rfl, fun _ => rfl⟩
  | push s f =>
    rw [pop_push]
    exact ⟨fun h => (Option.some_ne_none f h).elim, fun h => nomatch h⟩

/-- What is taken off is the last frame of the list. -/
theorem toList_of_pop (h : s.pop = (some f, t)) :
    s.toList = t.toList ++ [f] := by
  cases s using push_induction with
  | empty => cases h
  | push s g =>
    cases h
    exact toList_push s f

-- ================================================================= closing

/-- Closing drops the frames inside of the one that is closed. -/
theorem close_of_dropWhile {gs : List Frame}
    (h : s.frames.dropWhile (·.closer? ≠ some closer) = g :: gs) :
    s.close closer = (some g, ⟨gs⟩) := by
  rw [close, h]

/-- The current frame is closed by its own closer. -/
theorem close_push (h : g.closer? = some closer) :
    (s.push g).close closer = (some g, s) :=
  close_of_dropWhile (List.dropWhile_cons_of_neg (by simp [h]))

/-- Another frame is closed with those around it, if one of them is. -/
theorem close_push_of_ne (h : g.closer? ≠ some closer) :
    (s.push g).close closer
      = if (s.close closer).1 = none then (none, s.push g)
        else s.close closer := by
  have hdrop : (s.push g).frames.dropWhile (·.closer? ≠ some closer)
      = s.frames.dropWhile (·.closer? ≠ some closer) :=
    List.dropWhile_cons_of_pos (by simpa using h)
  rw [close, hdrop, close]
  cases s.frames.dropWhile (·.closer? ≠ some closer) <;> rfl

/-- Nothing is closed exactly if no frame above the base has the closer. -/
theorem close_eq_none_iff :
    (s.close closer).1 = none
      ↔ ∀ f ∈ s.toList.tail, f.closer? ≠ some closer := by
  induction s using push_induction with
  | empty => exact ⟨fun _ f hf => (List.not_mem_nil hf).elim, fun _ => rfl⟩
  | push s g ih =>
    simp only [mem_tail_toList_push, forall_eq_or_imp, ← ih]
    by_cases hg : g.closer? = some closer
    · simp [close_push hg, hg]
    · rw [close_push_of_ne hg]
      split
      next hnone => simp [hg, hnone]
      next hsome => simp [hsome]

/-- A closer without a frame leaves the stack as it was. -/
theorem close_of_unmatched
    (h : ∀ f ∈ s.toList.tail, f.closer? ≠ some closer) :
    s.close closer = (none, s) := by
  cases s using push_induction with
  | empty => rfl
  | push s g =>
    have hg := h g (mem_tail_toList_push.2 (Or.inl rfl))
    have hs := close_eq_none_iff.2 fun f hf =>
      h f (mem_tail_toList_push.2 (Or.inr hf))
    rw [close_push_of_ne hg, if_pos hs]

/-- Frames are taken off `s` until the first that the closer closes; that is
`f`, and `t` is left. -/
inductive PopsUntil (closer : String) : Stack → Frame → Stack → Prop
  | found {s t : Stack} {f : Frame} (hpop : s.pop = (some f, t))
      (hf : f.closer? = some closer) : PopsUntil closer s f t
  | further {s t u : Stack} {f g : Frame} (hpop : s.pop = (some g, t))
      (hg : g.closer? ≠ some closer) (hrest : PopsUntil closer t f u) :
      PopsUntil closer s f u

theorem not_popsUntil_empty : ¬ PopsUntil closer .empty f t := by
  intro h
  cases h with
  | found hpop => cases hpop
  | further hpop => cases hpop

/-- Popping goes on until a frame has the closer. -/
theorem popsUntil_push :
    PopsUntil closer (s.push g) f t
      ↔ (g.closer? = some closer ∧ f = g ∧ t = s)
        ∨ (g.closer? ≠ some closer ∧ PopsUntil closer s f t) := by
  constructor
  · intro h
    cases h with
    | found hpop hf =>
      cases hpop
      exact Or.inl ⟨hf, rfl, rfl⟩
    | further hpop hg hrest =>
      cases hpop
      exact Or.inr ⟨hg, hrest⟩
  · intro h
    rcases h with ⟨hg, rfl, rfl⟩ | ⟨hg, hrest⟩
    · exact .found (pop_push t f) hg
    · exact .further (pop_push s g) hg hrest

/-- Closing is taking off until the first frame that the closer closes. -/
theorem close_eq_some_iff :
    s.close closer = (some f, t) ↔ PopsUntil closer s f t := by
  induction s using push_induction with
  | empty =>
    refine ⟨fun h => ?_, fun h => (not_popsUntil_empty h).elim⟩
    cases h
  | push s g ih =>
    rw [popsUntil_push, ← ih]
    by_cases hg : g.closer? = some closer
    · simp [close_push hg, hg, eq_comm]
    · rw [close_push_of_ne hg]
      split
      next hnone =>
        have hne : s.close closer ≠ (some f, t) := fun h => by
          rw [h] at hnone
          cases hnone
        simp [hg, hne]
      next => simp [hg]

/-- What is taken off lies on top of what is left. -/
theorem PopsUntil.prefix_toList (h : PopsUntil closer s f t) :
    t.toList ++ [f] <+: s.toList := by
  induction h with
  | found hpop => exact (toList_of_pop hpop) ▸ List.prefix_refl _
  | further hpop _ _ ih =>
    rw [toList_of_pop hpop]
    exact ih.trans (List.prefix_append _ _)

-- ============================================================ plain lists

/-- The last place with a frame that the closer closes; the first place is
not looked at. -/
def closedPlace? (closer : String) (fs : List Frame) : Option Nat :=
  (List.range' 1 (fs.length - 1)).reverse.find? fun i =>
    fs[i]?.any (·.closer? = some closer)

/-- What an operation gives on a plain list of frames, the base first and the
current frame last, and the list it leaves. -/
def Op.onList (fs : List Frame) : Op → Option Frame × List Frame
  | .push f => (none, fs ++ [f])
  | .pop => if fs.length = 1 then (none, fs) else (fs.getLast?, fs.dropLast)
  | .close closer =>
    match closedPlace? closer fs with
    | some i => (fs[i]?, fs.take i)
    | none => (none, fs)

/-- The list after operations. -/
def listAfter (fs : List Frame) (ops : List Op) : List Frame :=
  ops.foldl (fun fs op => (op.onList fs).2) fs

/-- In a list, the last frame is closed if it has the closer; otherwise the
place is among those before it. -/
theorem closedPlace?_concat {fs : List Frame} (hne : fs ≠ []) (f : Frame) :
    closedPlace? closer (fs ++ [f])
      = if f.closer? = some closer then some fs.length
        else closedPlace? closer fs := by
  have hpos := List.length_pos_iff.2 hne
  have hlast : 1 + (fs.length - 1) = fs.length := by omega
  have hlength : (fs ++ [f]).length - 1 = fs.length - 1 + 1 := by
    rw [List.length_append, List.length_singleton]
    omega
  have hplaces : (List.range' 1 ((fs ++ [f]).length - 1)).reverse
      = fs.length :: (List.range' 1 (fs.length - 1)).reverse := by
    rw [hlength, List.range'_1_concat, List.reverse_append, hlast]
    rfl
  -- the last frame is looked at first, and the others as before
  rw [closedPlace?, hplaces, List.find?_cons, List.getElem?_concat_length,
    Option.any_some]
  by_cases hf : f.closer? = some closer
  · simp [hf]
  · rw [if_neg hf, decide_eq_false hf]
    refine List.find?_congr fun i hi => ?_
    have hlt := (List.mem_range'_1.1 (List.mem_reverse.1 hi)).2
    rw [List.getElem?_append_left (by omega)]

/-- At the place found there is a frame that the closer closes. -/
theorem exists_of_closedPlace? {fs : List Frame} {i : Nat}
    (h : closedPlace? closer fs = some i) :
    ∃ f, fs[i]? = some f ∧ f.closer? = some closer := by
  have hfound := List.find?_some h
  simpa [Option.any_eq_true] using hfound

theorem onList_close_of_place {fs : List Frame} {i : Nat}
    (h : closedPlace? closer fs = some i) :
    (Op.close closer).onList fs = (fs[i]?, fs.take i) := by
  rw [Op.onList, h]

theorem onList_close_of_no_place {fs : List Frame}
    (h : closedPlace? closer fs = none) :
    (Op.close closer).onList fs = (none, fs) := by
  rw [Op.onList, h]

/-- In a list as on a stack, the last frame is closed, or it goes with one
before it, or nothing happens. -/
theorem onList_close_concat {fs : List Frame} (hne : fs ≠ []) (f : Frame) :
    (Op.close closer).onList (fs ++ [f])
      = if f.closer? = some closer then (some f, fs)
        else if ((Op.close closer).onList fs).1 = none then (none, fs ++ [f])
        else (Op.close closer).onList fs := by
  have hconcat : closedPlace? closer (fs ++ [f]) = _ :=
    closedPlace?_concat hne f
  by_cases hf : f.closer? = some closer
  · rw [if_pos hf] at hconcat ⊢
    rw [onList_close_of_place hconcat, List.getElem?_concat_length,
      List.take_left]
  rw [if_neg hf] at hconcat ⊢
  cases hplace : closedPlace? closer fs with
  | none =>
    rw [onList_close_of_no_place (hconcat.trans hplace),
      onList_close_of_no_place hplace, if_pos rfl]
  | some i =>
    -- the place lies before the last frame, which is therefore not looked at
    obtain ⟨g, hg, -⟩ := exists_of_closedPlace? hplace
    have hlt := (List.getElem?_eq_some_iff.1 hg).1
    rw [onList_close_of_place (hconcat.trans hplace),
      onList_close_of_place hplace, hg, if_neg (Option.some_ne_none g),
      List.getElem?_append_left hlt, hg,
      List.take_append_of_le_length hlt.le]

/-- Popping the list is popping the stack. -/
theorem onList_pop_toList (s : Stack) :
    Op.pop.onList s.toList = (s.pop.1, s.pop.2.toList) := by
  cases s using push_induction with
  | empty => rfl
  | push s f =>
    have hpos := List.length_pos_iff.2 (toList_ne_nil s)
    have hlength : (s.toList ++ [f]).length ≠ 1 := by
      rw [List.length_append, List.length_singleton]
      omega
    rw [Op.onList, pop_push, toList_push, if_neg hlength,
      List.getLast?_concat, List.dropLast_concat]

/-- Closing in the list is closing on the stack. -/
theorem onList_close_toList (closer : String) (s : Stack) :
    (Op.close closer).onList s.toList
      = ((s.close closer).1, (s.close closer).2.toList) := by
  induction s using push_induction with
  | empty => rfl
  | push s f ih =>
    rw [toList_push, onList_close_concat (toList_ne_nil s), ih]
    by_cases hf : f.closer? = some closer
    · rw [if_pos hf, close_push hf]
    rw [if_neg hf, close_push_of_ne hf]
    split
    next => rw [toList_push]
    next => rfl

/-- An operation gives the same on the list of a stack as on the stack, and
leaves the list of what it leaves there. -/
theorem onList_toList (op : Op) (s : Stack) :
    op.onList s.toList = ((s.step op).1, (s.step op).2.toList) := by
  cases op with
  | push f => rw [Op.onList, step, toList_push]
  | pop => exact onList_pop_toList s
  | close closer => exact onList_close_toList closer s

/-- A list that starts as that of a stack stays so. -/
theorem listAfter_toList (s : Stack) (ops : List Op) :
    listAfter s.toList ops = (s.after ops).toList := by
  induction ops generalizing s with
  | nil => rfl
  | cons op ops ih =>
    have hstep : listAfter s.toList (op :: ops)
        = listAfter (op.onList s.toList).2 ops := rfl
    rw [hstep, onList_toList, ih]
    rfl

-- =============================================================== the base

/-- What holds of a stack on its base: the base is outermost and is never
given away, and closing is taking off until a frame is found, if there is one
to find above the base. -/
structure OnBase (s : Stack) : Prop where
  outermost : s.toList.head? = some .base
  size_eq : s.toList.length = s.size
  depth_eq : s.size = s.depth + 1
  pop_eq_none : s.pop.1 = none ↔ s.depth = 0
  pop_base : s.depth = 0 → s.pop.2 = s
  close_unmatched (closer : String) :
    (∀ f ∈ s.toList.tail, f.closer? ≠ some closer) →
      s.close closer = (none, s)
  close_matched (closer : String) :
    (∃ f ∈ s.toList.tail, f.closer? = some closer) →
      ∃ f t, s.close closer = (some f, t) ∧ t.toList ++ [f] <+: s.toList
  close_eq_some (closer : String) (f : Frame) (t : Stack) :
    s.close closer = (some f, t) ↔ PopsUntil closer s f t

theorem pop_of_depth_eq_zero (h : s.depth = 0) : s.pop.2 = s := by
  cases s using push_induction with
  | empty => rfl
  | push s f => cases h

/-- A frame is closed wherever the closer has one, and what is left is where it
was. -/
theorem exists_close_of_matched
    (h : ∃ f ∈ s.toList.tail, f.closer? = some closer) :
    ∃ f t, s.close closer = (some f, t) ∧ t.toList ++ [f] <+: s.toList := by
  obtain ⟨g, hmem, hg⟩ := h
  cases hclose : s.close closer with
  | mk result t =>
    cases result with
    | none =>
      have hnone := close_eq_none_iff.1 (congrArg Prod.fst hclose)
      exact absurd hg (hnone g hmem)
    | some f =>
      exact ⟨f, t, rfl, (close_eq_some_iff.1 hclose).prefix_toList⟩

/-- Every stack stands on its base. -/
theorem onBase (s : Stack) : s.OnBase where
  outermost := rfl
  size_eq := length_toList s
  depth_eq := rfl
  pop_eq_none := pop_eq_none_iff
  pop_base := pop_of_depth_eq_zero
  close_unmatched _ := close_of_unmatched
  close_matched _ := exists_close_of_matched
  close_eq_some _ _ _ := close_eq_some_iff

/-- The base outlasts every sequence of operations, also in a plain list that
starts with nothing else; at each point the next operation gives the same on
the list as on the stack. -/
theorem base_outlasts_operations (ops : List Op) :
    (listAfter [.base] ops).head? = some .base
      ∧ listAfter [.base] ops = (empty.after ops).toList
      ∧ (∀ op : Op, op.onList (listAfter [.base] ops)
        = (((empty.after ops).step op).1, ((empty.after ops).step op).2.toList))
      ∧ (empty.after ops).OnBase := by
  have hlist := listAfter_toList empty ops
  rw [toList_empty] at hlist
  rw [hlist]
  exact ⟨rfl, rfl, fun op => onList_toList op _, onBase _⟩

/-- A brace closes its frame with the call left open inside, and a frame
without a closer goes with them. -/
example :
    let body : Frame := ⟨.matchBody, ⟨0, 1⟩, none, some "\x7d"⟩
    let call : Frame := ⟨.functionArgs, ⟨1, 2⟩, some "count", some ")"⟩
    let bare : Frame := ⟨.topLevel, ⟨2, 3⟩, none, none⟩
    let ops : List Op := [.push bare, .push body, .push call, .push bare]
    listAfter [.base] (ops ++ [.close "\x7d"]) = [.base, bare]
      ∧ listAfter [.base] (ops ++ [.close "]"]) = listAfter [.base] ops := by
  decide

end LogQuery.Stack
