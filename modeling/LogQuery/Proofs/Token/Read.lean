/-
What reading depends on.

A category looks at more than its fragment, but not at much more: at the
context of the current frame, at whether the fragment before compares, and at
three properties of the fragment behind, its outlook. The stack looks only
back. So the tokens of a first part are fixed by that part and the outlook of
the next fragment, and the brackets left open by the part are fixed by it
alone.
-/
import LogQuery.Token.Classify

namespace LogQuery

variable {v : Vocabulary}

-- ================================================= neighbours of a fragment

/-- What a category sees of the fragment that follows. -/
structure Outlook where
  opensCall : Bool
  compares : Bool
  assigns : Bool
deriving DecidableEq, Repr

/-- The outlook on a fragment, or on the end of the query. -/
def Vocabulary.outlook (v : Vocabulary) (next? : Option Fragment) :
    Outlook where
  opensCall := next?.any (·.isPunct "(")
  compares := next?.any v.readsComparison
  assigns := next?.any (·.isPunct "=")

/-- Only words and punctuation are seen in advance. -/
theorem Vocabulary.outlook_of_kind {f : Fragment} (hpunct : f.kind ≠ .punct)
    (hword : f.kind ≠ .word) : v.outlook (some f) = ⟨false, false, false⟩ := by
  simp [outlook, Fragment.isPunct, readsComparison, hpunct, hword]

/-- Two frames give the text inside them the same meaning. -/
structure Frame.Alike (f g : Frame) : Prop where
  context : f.context = g.context
  functionName? : f.functionName? = g.functionName?

/-- A category is decided by the context, by whether the fragment before
compares, and by the outlook. -/
theorem categorize_congr {frame frame' : Frame}
    {previous? previous?' next? next?' : Option Fragment} (f : Fragment)
    (hframe : frame.context = frame'.context)
    (hprevious : previous?.any v.readsComparison
      = previous?'.any v.readsComparison)
    (hnext : v.outlook next? = v.outlook next?') :
    categorize v frame previous? next? f
      = categorize v frame' previous?' next?' f := by
  have hcall := congrArg Outlook.opensCall hnext
  have hcompares := congrArg Outlook.compares hnext
  have hassigns := congrArg Outlook.assigns hnext
  simp only [Vocabulary.outlook] at hcall hcompares hassigns
  simp only [categorize, hframe, hprevious, hcall, hcompares, hassigns]

theorem Numbered.token_congr {frame frame' : Frame} (n : Numbered)
    (category : Category) (h : frame.Alike frame') :
    n.token category frame = n.token category frame' := by
  rw [token, token, h.context, h.functionName?]

-- ================================================== significant fragments

/-- The fragments of two parts that are no layout, numbered on. -/
theorem significantFrom_append (start : Nat) (fs gs : List Fragment) :
    significantFrom start (fs ++ gs)
      = significantFrom start fs
        ++ significantFrom (start + fs.length) gs := by
  induction fs generalizing start with
  | nil => rfl
  | cons f fs ih =>
    have hstart : start + (f :: fs).length = start + 1 + fs.length := by
      rw [List.length_cons]
      omega
    rw [List.cons_append, significantFrom, significantFrom, ih, hstart]
    split
    · rfl
    · rfl

theorem significantFrom_cons_of_layout {f : Fragment} (start : Nat)
    (fs : List Fragment) (h : f.kind.isLayout = true) :
    significantFrom start (f :: fs) = significantFrom (start + 1) fs :=
  if_pos h

theorem significantFrom_cons_of_not_layout {f : Fragment} (start : Nat)
    (fs : List Fragment) (h : f.kind.isLayout = false) :
    significantFrom start (f :: fs)
      = ⟨start, f⟩ :: significantFrom (start + 1) fs :=
  if_neg (by simp [h])

/-- The fragments that are no layout. -/
def significant (fs : List Fragment) : List Fragment :=
  fs.filter fun f => !f.kind.isLayout

theorem significant_append (fs gs : List Fragment) :
    significant (fs ++ gs) = significant fs ++ significant gs :=
  List.filter_append fs gs

/-- Without their numbers these are the fragments that are no layout. -/
theorem map_fragment_significantFrom (start : Nat) (fs : List Fragment) :
    (significantFrom start fs).map (·.fragment) = significant fs := by
  induction fs generalizing start with
  | nil => rfl
  | cons f fs ih =>
    cases hlayout : f.kind.isLayout with
    | true =>
      rw [significantFrom_cons_of_layout start fs hlayout, ih, significant,
        significant, List.filter_cons_of_neg (by simp [hlayout])]
    | false =>
      rw [significantFrom_cons_of_not_layout start fs hlayout, List.map_cons,
        ih, significant, significant,
        List.filter_cons_of_pos (by simp [hlayout])]

/-- There are as many as fragments that are no layout. -/
theorem length_significantFrom (start : Nat) (fs : List Fragment) :
    (significantFrom start fs).length
      = (fs.filter fun f => !f.kind.isLayout).length := by
  rw [← List.length_map (·.fragment), map_fragment_significantFrom, significant]

-- ================================================================= reading

/-- One fragment is read, and then the others on the stack that it leaves. -/
theorem readFrom_cons (previous? : Option Fragment) (s : Stack) (n : Numbered)
    (ns : List Numbered) :
    readFrom v previous? s (n :: ns)
      = (n.token (categorize v s.current previous?
            (ns.head?.map (·.fragment)) n.fragment) s.current
          :: (readFrom v (some n.fragment)
            (s.read v previous? n.fragment) ns).1,
        (readFrom v (some n.fragment)
          (s.read v previous? n.fragment) ns).2) := rfl

/-- A token has the number, the place and the text of its fragment. -/
theorem map_place_readFrom (previous? : Option Fragment) (s : Stack)
    (ns : List Numbered) :
    (readFrom v previous? s ns).1.map
        (fun t => (t.fragmentIndex, t.span, t.text))
      = ns.map fun n => (n.index, n.fragment.span, n.fragment.text) := by
  induction ns generalizing previous? s with
  | nil => rfl
  | cons n ns ih =>
    rw [readFrom_cons, List.map_cons, ih, List.map_cons]
    rfl

/-- What tokens say of their fragments can be read off the fragments. -/
theorem map_place_classify {α : Type} (say : Nat → Span → String → α)
    (v : Vocabulary) (fs : List Fragment) (s : Stack) :
    (classify v fs s).1.map (fun t => say t.fragmentIndex t.span t.text)
      = (significantFrom 0 fs).map
        fun n => say n.index n.fragment.span n.fragment.text := by
  have hplaces := congrArg (List.map fun p => say p.1 p.2.1 p.2.2)
    (map_place_readFrom (v := v) none s (significantFrom 0 fs))
  rw [List.map_map, List.map_map] at hplaces
  exact hplaces

/-- Every fragment that is no layout becomes one token. -/
theorem length_readFrom (previous? : Option Fragment) (s : Stack)
    (ns : List Numbered) :
    (readFrom v previous? s ns).1.length = ns.length := by
  induction ns generalizing previous? s with
  | nil => rfl
  | cons n ns ih => rw [readFrom_cons, List.length_cons, ih, List.length_cons]

/-- The tokens of a first part are fixed by it and by the outlook on what
follows. -/
theorem take_readFrom_append {ms ms' : List Numbered}
    (previous? : Option Fragment) (s : Stack) (ns : List Numbered)
    (h : v.outlook (ms.head?.map (·.fragment))
      = v.outlook (ms'.head?.map (·.fragment))) :
    (readFrom v previous? s (ns ++ ms)).1.take ns.length
      = (readFrom v previous? s (ns ++ ms')).1.take ns.length := by
  induction ns generalizing previous? s with
  | nil => rfl
  | cons n ns ih =>
    have hnext : v.outlook ((ns ++ ms).head?.map (·.fragment))
        = v.outlook ((ns ++ ms').head?.map (·.fragment)) := by
      cases ns with
      | nil => exact h
      | cons m ns => rfl
    rw [List.cons_append, List.cons_append, readFrom_cons, readFrom_cons,
      List.length_cons, List.take_succ_cons, List.take_succ_cons, ih,
      categorize_congr n.fragment rfl rfl hnext]

/-- The fragment that stands before what follows a first part. -/
def lastBefore (previous? : Option Fragment) : List Numbered → Option Fragment
  | [] => previous?
  | n :: ns => lastBefore (some n.fragment) ns

/-- The brackets left open are those that the second part leaves open behind
the first. -/
theorem readFrom_append_snd (previous? : Option Fragment) (s : Stack)
    (ns ms : List Numbered) :
    (readFrom v previous? s (ns ++ ms)).2
      = (readFrom v (lastBefore previous? ns)
          (readFrom v previous? s ns).2 ms).2 := by
  induction ns generalizing previous? s with
  | nil => rfl
  | cons n ns ih =>
    rw [List.cons_append, readFrom_cons, readFrom_cons, ih]
    rfl

/-- The tokens of a second part are read with the brackets that the first
leaves open. -/
theorem drop_readFrom_append (previous? : Option Fragment) (s : Stack)
    (ns ms : List Numbered) :
    (readFrom v previous? s (ns ++ ms)).1.drop ns.length
      = (readFrom v (lastBefore previous? ns)
          (readFrom v previous? s ns).2 ms).1 := by
  induction ns generalizing previous? s with
  | nil => rfl
  | cons n ns ih =>
    rw [List.cons_append, readFrom_cons, readFrom_cons, List.length_cons,
      List.drop_succ_cons, ih]
    rfl

end LogQuery
