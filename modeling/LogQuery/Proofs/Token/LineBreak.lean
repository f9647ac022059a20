/-
Line breaks are layout.

A line feed between two fragments is a fragment of its own, and one that
reading does not see. So wherever a query is broken into lines, its tokens
keep their texts and their meaning, and the same brackets are open at its end;
only offsets change. The one place where a line feed is no layout is behind an
open block comment, which takes it in.
-/
import LogQuery.Proofs.Fragment.Boundary
import LogQuery.Proofs.Token.Unseen
import LogQuery.Vocabulary.Builtin

namespace LogQuery

variable {v : Vocabulary}

/-- Fragments that are moved along are seen as before. -/
theorem forall₂_alike_shift (d : Int) (fs : List Fragment) :
    List.Forall₂ Fragment.Alike (fs.map (·.shift d)) fs := by
  rw [List.forall₂_map_left_iff, List.forall₂_same]
  exact fun f _ => ⟨rfl, fun _ => rfl⟩

theorem significant_map_shift (d : Int) (fs : List Fragment) :
    significant (fs.map (·.shift d)) = (significant fs).map (·.shift d) := by
  rw [significant, significant, List.filter_map]
  rfl

/-- The fragments that are seen around a line feed are those that were seen
without it. -/
theorem significant_lineFeed (span : Span) (fs gs : List Fragment) :
    significant (fs ++ ⟨.newline, span, "\n"⟩ :: gs.map (·.shift 1))
      = significant fs ++ (significant gs).map (·.shift 1) := by
  rw [significant_append, ← significant_map_shift, significant, significant,
    List.filter_cons_of_neg (by simp [Fragment.Kind.isLayout])]
  rfl

/-- A line feed between two fragments of a query, or at one of its ends, is a
fragment of its own. The others stay, all tokens keep their texts and their
meaning, and the same brackets are left open, moved along behind it. -/
theorem classify_breakAt (v : Vocabulary) (text : String)
    (fs gs : List Fragment) (s : Stack) (h : scan text = fs ++ gs)
    (hclosed : ∀ f ∈ fs.getLast?, f.isUnclosed = false) :
    scan (breakAt (endOf fs) text)
        = fs ++ ⟨.newline, ⟨endOf fs, endOf fs + 1⟩, "\n"⟩
          :: gs.map (·.shift 1)
      ∧ (classifyQuery v (breakAt (endOf fs) text) s).1.map
          (fun t => (t.text, t.meaning))
        = (classifyQuery v text s).1.map (fun t => (t.text, t.meaning))
      ∧ (classifyQuery v (breakAt (endOf fs) text) s).2.unplaced
        = (classifyQuery v text s).2.unplaced := by
  have hbreak := scan_breakAt h hclosed
  have hseen : List.Forall₂ Fragment.Alike
      (significant (scan (breakAt (endOf fs) text)))
      (significant (scan text)) := by
    rw [hbreak, h, significant_lineFeed, significant_append]
    exact List.rel_append (List.forall₂_same.2 fun f _ => .refl f)
      (forall₂_alike_shift 1 (significant gs))
  have htexts : (significant (scan (breakAt (endOf fs) text))).map (·.text)
      = (significant (scan text)).map (·.text) := by
    rw [hbreak, h, significant_lineFeed, significant_append,
      List.map_append, List.map_append, List.map_map]
    rfl
  obtain ⟨hmeanings, hstacks⟩ := classify_alike (v := v) (s := s) rfl hseen
  refine ⟨hbreak, ?_, hstacks⟩
  rw [← List.zip_map', ← List.zip_map', classifyQuery, classifyQuery,
    hmeanings, map_text_classify, map_text_classify, htexts]

/-- A line feed right behind a regular expression, before letters that would
be flags if they did not go on as a word, inside a call. -/
theorem classify_breakAt_regex :
    let query := "count(/a/dx=1, x:=2"
    let fs := (scan query).take 3
    let gs := (scan query).drop 3
    scan query = fs ++ gs
      ∧ (∀ f ∈ fs.getLast?, f.isUnclosed = false)
      ∧ breakAt (endOf fs) query = "count(/a/\ndx=1, x:=2"
      ∧ scan "count(/a/\ndx=1, x:=2"
        = fs ++ ⟨.newline, ⟨9, 10⟩, "\n"⟩ :: gs.map (·.shift 1)
      ∧ (classifyQuery .builtin "count(/a/\ndx=1, x:=2" .empty).1.map
          (fun t => (t.text, t.meaning))
        = (classifyQuery .builtin query .empty).1.map
          (fun t => (t.text, t.meaning))
      ∧ (classifyQuery .builtin "count(/a/\ndx=1, x:=2" .empty).2.unplaced
        = (classifyQuery .builtin query .empty).2.unplaced := by
  intro query fs gs
  have hsplit : scan query = fs ++ gs := (List.take_append_drop 3 _).symm
  have hclosed : ∀ f ∈ fs.getLast?, f.isUnclosed = false := by decide +kernel
  have hend : endOf fs = 9 := by decide +kernel
  have htext : breakAt (endOf fs) query = "count(/a/\ndx=1, x:=2" := by
    decide +kernel
  obtain ⟨hscan, htokens, hstack⟩ :=
    classify_breakAt .builtin query fs gs .empty hsplit hclosed
  rw [htext] at hscan htokens hstack
  rw [hend] at hscan
  exact ⟨hsplit, hclosed, htext, hscan, htokens, hstack⟩

end LogQuery
