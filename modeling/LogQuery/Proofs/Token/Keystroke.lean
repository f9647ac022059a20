/-
Colours while a query is typed.

While a query is typed its text is a prefix of what it becomes. A fragment
that is complete in the prefix stays as it is, but for a regular expression
at the very end, and that is seen from before in the same way however far it
reaches. So a token that is complete, and has a complete token behind it, is
final.
-/
import LogQuery.Proofs.Fragment.Cut
import LogQuery.Proofs.Token.Read

namespace LogQuery

open Fragment

variable {v : Vocabulary}

-- ================================================= tokens of a first part

/-- Two lists of fragments that agree up to fragments of the same outlook have
the same tokens up to there. -/
theorem take_classify_of_outlook {fs gs gs' : List Fragment} {f f' : Fragment}
    (s : Stack) (hf : f.kind.isLayout = false) (hf' : f'.kind.isLayout = false)
    (h : v.outlook (some f) = v.outlook (some f')) :
    (classify v (fs ++ f :: gs) s).1.take (significantFrom 0 fs).length
      = (classify v (fs ++ f' :: gs') s).1.take
          (significantFrom 0 fs).length := by
  unfold classify
  rw [significantFrom_append, significantFrom_append,
    significantFrom_cons_of_not_layout _ _ hf,
    significantFrom_cons_of_not_layout _ _ hf']
  exact take_readFrom_append none s (significantFrom 0 fs) h

/-- A common first part fixes all its tokens but the last one. -/
theorem take_classify_append (s : Stack) (fs gs gs' : List Fragment) :
    (classify v (fs ++ gs) s).1.take ((significantFrom 0 fs).length - 1)
      = (classify v (fs ++ gs') s).1.take
          ((significantFrom 0 fs).length - 1) := by
  unfold classify
  rw [significantFrom_append, significantFrom_append]
  rcases List.eq_nil_or_concat (significantFrom 0 fs) with hnil | ⟨ns, n, heq⟩
  · rw [hnil]
    rfl
  · have hlen : (ns ++ [n]).length - 1 = ns.length := by
      rw [List.length_append, List.length_singleton]
      omega
    rw [heq, List.concat_eq_append, hlen, List.append_assoc, List.append_assoc]
    exact take_readFrom_append none s ns rfl

-- ============================================================= keystrokes

/-- A regular expression that grows is no layout, and nothing of it is seen
in advance. -/
theorem outlook_of_grows {l m : Lexeme} (h : l.Grows m) (start : Nat) :
    v.outlook (some (l.placed start)) = v.outlook (some (m.placed start)) := by
  rcases h with rfl | ⟨hl, hm, -⟩
  · rfl
  · rw [Vocabulary.outlook_of_kind, Vocabulary.outlook_of_kind]
    all_goals simp [Lexeme.placed, hl, hm]

/-- All tokens of a first part but the last one are the same whether the part
ends in `l` or in what `l` grows to. -/
theorem take_classify_of_grows {l m : Lexeme} (s : Stack) (start : Nat)
    (fs gs gs' : List Fragment) (h : l.Grows m) :
    (classify v (fs ++ m.placed start :: gs) s).1.take
        ((significantFrom 0 (fs ++ [l.placed start])).length - 1)
      = (classify v (fs ++ l.placed start :: gs') s).1.take
          ((significantFrom 0 (fs ++ [l.placed start])).length - 1) := by
  cases hlayout : l.kind.isLayout with
  | true =>
    -- layout does not grow, so the first part is common as a whole
    have hm : m = l := h.eq_of_kind_ne fun hl => by
      rw [hl] at hlayout
      cases hlayout
    rw [hm, List.append_cons fs _ gs, List.append_cons fs _ gs']
    exact take_classify_append s _ gs gs'
  | false =>
    have hlayout' : m.kind.isLayout = false := by
      rwa [h.kind_eq]
    have hlen : (significantFrom 0 (fs ++ [l.placed start])).length - 1
        = (significantFrom 0 fs).length := by
      rw [significantFrom_append,
        significantFrom_cons_of_not_layout _ _ hlayout, List.length_append]
      rfl
    -- the grown lexeme looks the same to what is before it
    rw [hlen]
    exact take_classify_of_outlook s hlayout' hlayout
      (outlook_of_grows h start).symm

/-- The fragments of a query, layout left out, that are complete within its
first `n` characters. -/
def completeFragments (n : Nat) (text : String) : List Fragment :=
  (scan text).filter fun f => !f.kind.isLayout && f.span.stop ≤ (n : Int)

/-- The complete fragments are those of the leading lexemes. -/
theorem exists_completeFragments (n : Nat) (text : String) :
    ∃ F G, Lexeme.ofChars text.toList = F ++ G ∧ Lexeme.total F ≤ n
      ∧ (completeFragments n text).length
        = (significantFrom 0 (Lexeme.place 0 F)).length := by
  obtain ⟨F, G, hsplit, hle, hfinished⟩ := exists_finishedFragments n text
  refine ⟨F, G, hsplit, hle, ?_⟩
  rw [length_significantFrom, ← hfinished, finishedFragments,
    List.filter_filter]
  rfl

/-- While a query is typed, every complete token but the last one has got
its final colour. -/
theorem tokens_firstChars (v : Vocabulary) (text : String) (n : Nat) :
    (completeFragments n text).length ≤ (tokens v text).length
      ∧ (tokens v (firstChars n text)).take
          ((completeFragments n text).length - 1)
        = (tokens v text).take ((completeFragments n text).length - 1) := by
  obtain ⟨F, G, hsplit, hle, hcount⟩ := exists_completeFragments n text
  constructor
  · rw [tokens, classifyQuery, classify, length_readFrom, hcount, scan, hsplit,
      Lexeme.place_append, significantFrom_append, List.length_append]
    exact Nat.le_add_right _ _
  rcases List.eq_nil_or_concat F with rfl | ⟨F, l, rfl⟩
  · rw [hcount]
    rfl
  rw [List.concat_eq_append, List.append_assoc] at hsplit
  rw [List.concat_eq_append] at hle hcount
  obtain ⟨gs', hscan⟩ := scan_of_split hsplit
  obtain ⟨m, gs, hcut, hgrows, -⟩ := scan_firstChars hsplit hle
  rw [Lexeme.place_append, Nat.zero_add] at hcount
  rw [tokens, tokens, classifyQuery, classifyQuery, hscan, hcut, hcount]
  exact take_classify_of_grows .empty _ _ gs gs' hgrows

end LogQuery
