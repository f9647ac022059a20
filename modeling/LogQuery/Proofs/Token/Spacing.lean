/-
How wide white space is does not matter.

Reading does not see layout. So when white space between two fragments is
replaced by other white space, which leaves the other fragments and all their
numbers as they are, the tokens keep their texts, numbers and meaning, and the
same brackets are open at the end; only offsets change.
-/
import LogQuery.Proofs.Fragment.Spacing
import LogQuery.Proofs.Token.Unseen
import LogQuery.Vocabulary.Builtin

namespace LogQuery

variable {v : Vocabulary} {fs gs : List Fragment}

-- ================================================== significant fragments

/-- The fragments have the same number, the same kind and the same text. -/
structure Numbered.Alike (n m : Numbered) : Prop where
  index : n.index = m.index
  kind : n.fragment.kind = m.fragment.kind
  text : n.fragment.text = m.fragment.text

/-- What is no layout keeps its number and its text if white space alone
changes. -/
theorem forall₂_significantFrom (start : Nat)
    (h : List.Forall₂ Fragment.AlikeButSpace fs gs) :
    List.Forall₂ Numbered.Alike (significantFrom start fs)
      (significantFrom start gs) := by
  induction h generalizing start with
  | nil => exact .nil
  | @cons f g fs gs hfg _ ih =>
    cases hlayout : f.kind.isLayout with
    | true =>
      rw [significantFrom_cons_of_layout _ _ hlayout,
        significantFrom_cons_of_layout _ _ (hfg.kind ▸ hlayout)]
      exact ih (start + 1)
    | false =>
      rw [significantFrom_cons_of_not_layout _ _ hlayout,
        significantFrom_cons_of_not_layout _ _ (hfg.kind ▸ hlayout)]
      refine .cons ⟨rfl, hfg.kind, hfg.text ?_⟩ (ih (start + 1))
      intro hspace
      rw [hspace] at hlayout
      cases hlayout

-- ================================================================== tokens

/-- The token with nothing said about its place. -/
def Token.unplaced (t : Token) : Token := { t with span := ⟨0, 0⟩ }

/-- Tokens with the numbers and texts of the same fragments and with the same
meaning differ in places at most. -/
theorem map_unplaced_eq {ts us : List Token}
    (hfragments : ts.map (fun t => (t.fragmentIndex, t.text))
      = us.map (fun u => (u.fragmentIndex, u.text)))
    (hmeanings : ts.map (·.meaning) = us.map (·.meaning)) :
    ts.map Token.unplaced = us.map Token.unplaced := by
  have hbuilt : ∀ ts : List Token, ts.map Token.unplaced
      = List.zipWith (fun n m => (⟨⟨0, 0⟩, m.category, n.1, n.2, m.context,
          m.functionName?⟩ : Token))
        (ts.map fun t => (t.fragmentIndex, t.text)) (ts.map (·.meaning)) := by
    intro ts
    rw [List.zipWith_map, List.zipWith_self]
    rfl
  rw [hbuilt, hbuilt, hfragments, hmeanings]

/-- Fragments that are alike but for white space become tokens that differ in
places at most. -/
theorem classify_alikeButSpace (s : Stack)
    (h : List.Forall₂ Fragment.AlikeButSpace fs gs) :
    (classify v fs s).1.map Token.unplaced
        = (classify v gs s).1.map Token.unplaced
      ∧ (classify v fs s).2.unplaced = (classify v gs s).2.unplaced := by
  have hnumbered := forall₂_significantFrom 0 h
  obtain ⟨hmeanings, hstacks⟩ := readFrom_alike (v := v) (s := s) rfl .none
    (hnumbered.imp fun n m hnm => ⟨hnm.kind, fun _ => hnm.text⟩)
  have hfragments :
      (classify v fs s).1.map (fun t => (t.fragmentIndex, t.text))
        = (classify v gs s).1.map fun t => (t.fragmentIndex, t.text) := by
    rw [map_place_classify (fun index _ text => (index, text)) v fs s,
      map_place_classify (fun index _ text => (index, text)) v gs s,
      ← List.forall₂_eq_eq_eq, List.forall₂_map_left_iff,
      List.forall₂_map_right_iff]
    exact hnumbered.imp fun n m hnm => by rw [hnm.index, hnm.text]
  exact ⟨map_unplaced_eq hfragments hmeanings, hstacks⟩

/-- Any other white space of a line can stand in the place of the white space
between two fragments of a query. The fragments are as many and of the same
kinds, and have the same texts but for the white space. All tokens stay but for
their places, and the same brackets are left open. -/
theorem classify_respaced (v : Vocabulary) (text : String) (ts : List String)
    (s : Stack) (hts : List.Forall₂ Fragment.Admits (scan text) ts) :
    List.Forall₂ Fragment.AlikeButSpace (scan (String.join ts)) (scan text)
      ∧ (scan (String.join ts)).map (·.text) = ts
      ∧ (classifyQuery v (String.join ts) s).1.map Token.unplaced
        = (classifyQuery v text s).1.map Token.unplaced
      ∧ (classifyQuery v (String.join ts) s).2.unplaced
        = (classifyQuery v text s).2.unplaced := by
  obtain ⟨hfragments, htexts⟩ := scan_respaced hts
  obtain ⟨htokens, hstacks⟩ := classify_alikeButSpace (v := v) s hfragments
  exact ⟨hfragments, htexts, htokens, hstacks⟩

/-- A slash with no partner, and a backslash that takes along the only one of
the white space characters behind it, or the first of two. -/
theorem classify_respaced_slash :
    let text := "x / \\ count(by=1"
    let ts := ["x", "\t", "/", "  ", "\\", " \t", "count", "(", "by", "=", "1"]
    List.Forall₂ Fragment.Admits (scan text) ts
      ∧ String.join ts = "x\t/  \\ \tcount(by=1"
      ∧ List.Forall₂ Fragment.AlikeButSpace
        (scan "x\t/  \\ \tcount(by=1") (scan text)
      ∧ (classifyQuery .builtin "x\t/  \\ \tcount(by=1" .empty).1.map
          Token.unplaced
        = (classifyQuery .builtin text .empty).1.map Token.unplaced
      ∧ (classifyQuery .builtin "x\t/  \\ \tcount(by=1" .empty).2.unplaced
        = (classifyQuery .builtin text .empty).2.unplaced := by
  intro text ts
  have hts : List.Forall₂ Fragment.Admits (scan text) ts := by decide +kernel
  have hjoin : String.join ts = "x\t/  \\ \tcount(by=1" := by
    decide +kernel
  obtain ⟨hfragments, -, htokens, hstack⟩ :=
    classify_respaced .builtin text ts .empty hts
  rw [hjoin] at hfragments htokens hstack
  exact ⟨hts, hjoin, hfragments, htokens, hstack⟩

end LogQuery
