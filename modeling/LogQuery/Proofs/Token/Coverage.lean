/-
Tokens cover a query.

A fragment that is no layout becomes one token, at its place and with its
text; the token has the number of the fragment. So what the tokens leave out
are the fragments that are layout, and these hold white space alone. A token
starts with something else. Vocabulary and open brackets have no say in this.
-/
import LogQuery.Proofs.Fragment.Partition
import LogQuery.Proofs.Token.Read

namespace LogQuery

open Fragment Text

variable {v : Vocabulary} {text : String}

-- ==================================================== layout and white space

namespace Lexeme

theorem isLayout_slashOpening (cs : List Char) :
    (slashOpening cs).1.isLayout = false := by
  unfold slashOpening
  split
  · rfl
  · rfl
  · split
    · rfl
    · rfl

/-- A line feed is a lexeme on its own. -/
theorem opening_lineFeed_alone (cs : List Char) :
    opening '\n' cs = (.newline, 0) := rfl

/-- What is no white space starts no layout. -/
theorem isLayout_of_not_blank {c : Char} (hc : isBlank c = false)
    (cs : List Char) : (opening c cs).1.isLayout = false := by
  have hfeed : c ≠ '\n' := by
    rintro rfl
    cases hc
  rw [opening, if_neg hfeed, hc, if_neg Bool.false_ne_true]
  split
  · exact isLayout_slashOpening cs
  repeat' split
  all_goals rfl

/-- A lexeme is layout if it starts with white space. -/
theorem isLayout_first (c : Char) (cs : List Char) :
    (first c cs).kind.isLayout = isBlank c := by
  rw [first]
  cases hc : isBlank c with
  | false => exact isLayout_of_not_blank hc cs
  | true =>
    by_cases hfeed : c = '\n'
    · rw [hfeed, opening_lineFeed_alone]
      rfl
    · rw [opening_blank hfeed hc]
      rfl

/-- A lexeme that starts with white space holds nothing else. -/
theorem blank_of_mem_first {c d : Char} {cs : List Char}
    (hc : isBlank c = true) (hd : d ∈ (first c cs).chars) :
    isBlank d = true := by
  rcases List.mem_cons.1 hd with rfl | hd
  · exact hc
  by_cases hfeed : c = '\n'
  · rw [hfeed, opening_lineFeed_alone] at hd
    cases hd
  · rw [opening_blank hfeed hc, gapExtent,
      ← List.prefix_iff_eq_take.1 (List.takeWhile_prefix isGap)] at hd
    have hgap := List.mem_takeWhile_imp hd
    rw [isGap, Bool.and_eq_true] at hgap
    exact hgap.1

/-- Layout is white space. -/
theorem blank_of_isLayout {cs : List Char} {l : Lexeme} (hl : l ∈ ofChars cs)
    (hlayout : l.kind.isLayout = true) : ∀ c ∈ l.chars, isBlank c = true := by
  fun_induction ofChars cs with
  | case1 => cases hl
  | case2 c cs _ ih =>
    rcases List.mem_cons.1 hl with rfl | hl
    · intro d hd
      exact blank_of_mem_first ((isLayout_first c cs).symm.trans hlayout) hd
    · exact ih hl

/-- What is no layout does not start with white space. -/
theorem not_blank_of_not_isLayout {cs : List Char} {l : Lexeme}
    (hl : l ∈ ofChars cs) (hlayout : l.kind.isLayout = false) :
    ∀ c ∈ l.chars.head?, isBlank c = false := by
  fun_induction ofChars cs with
  | case1 => cases hl
  | case2 c cs _ ih =>
    rcases List.mem_cons.1 hl with rfl | hl
    · rintro d ⟨⟩
      exact (isLayout_first c cs).symm.trans hlayout
    · exact ih hl

end Lexeme

theorem blank_of_mem_scan {f : Fragment} (hf : f ∈ scan text)
    (hlayout : f.kind.isLayout = true) : ∀ c ∈ f.text.toList, isBlank c := by
  obtain ⟨before, l, after, hsplit, rfl⟩ := mem_scan_iff.1 hf
  have hl : l ∈ Lexeme.ofChars text.toList := by simp [hsplit]
  rw [Lexeme.placed, String.toList_ofList]
  exact Lexeme.blank_of_isLayout hl hlayout

theorem not_blank_of_mem_scan {f : Fragment} (hf : f ∈ scan text)
    (hlayout : f.kind.isLayout = false) :
    ∀ c ∈ f.text.toList.head?, isBlank c = false := by
  obtain ⟨before, l, after, hsplit, rfl⟩ := mem_scan_iff.1 hf
  have hl : l ∈ Lexeme.ofChars text.toList := by simp [hsplit]
  rw [Lexeme.placed, String.toList_ofList]
  exact Lexeme.not_blank_of_not_isLayout hl hlayout

-- ==================================================== tokens and fragments

/-- The numbers of fragments count the layout as well. -/
theorem getElem?_of_mem_significantFrom {n : Numbered} {start : Nat}
    {fs : List Fragment} (hn : n ∈ significantFrom start fs) :
    start ≤ n.index ∧ fs[n.index - start]? = some n.fragment
      ∧ n.fragment.kind.isLayout = false := by
  induction fs generalizing start with
  | nil => cases hn
  | cons f fs ih =>
    -- behind the first fragment the numbers start one later
    have hlater : n ∈ significantFrom (start + 1) fs →
        start ≤ n.index ∧ (f :: fs)[n.index - start]? = some n.fragment
          ∧ n.fragment.kind.isLayout = false := by
      intro hn
      obtain ⟨hle, hget, hlayout⟩ := ih hn
      have hindex : n.index - start = n.index - (start + 1) + 1 := by omega
      rw [hindex, List.getElem?_cons_succ]
      exact ⟨by omega, hget, hlayout⟩
    cases hlayout : f.kind.isLayout with
    | true =>
      rw [significantFrom_cons_of_layout _ _ hlayout] at hn
      exact hlater hn
    | false =>
      rw [significantFrom_cons_of_not_layout _ _ hlayout] at hn
      rcases List.mem_cons.1 hn with rfl | hn
      · exact ⟨Nat.le_refl _, by simp, hlayout⟩
      · exact hlater hn

/-- The fragment of a query that a token is made of. -/
structure Token.MadeOf (t : Token) (text : String) (f : Fragment) : Prop where
  number : (scan text)[t.fragmentIndex]? = some f
  span : f.span = t.span
  text : f.text = t.text
  significant : f.kind.isLayout = false

theorem exists_madeOf {t : Token} {s : Stack}
    (ht : t ∈ (classifyQuery v text s).1) : ∃ f, t.MadeOf text f := by
  have hplace := List.mem_map_of_mem (f := fun t : Token =>
    (t.fragmentIndex, t.span, t.text)) ht
  rw [classifyQuery, classify, map_place_readFrom] at hplace
  obtain ⟨n, hn, heq⟩ := List.mem_map.1 hplace
  obtain ⟨hindex, hspan, htext⟩ : n.index = t.fragmentIndex
      ∧ n.fragment.span = t.span ∧ n.fragment.text = t.text := by
    simpa using heq
  obtain ⟨-, hget, hlayout⟩ := getElem?_of_mem_significantFrom hn
  exact ⟨n.fragment, by rw [← hindex]; simpa using hget, hspan, htext, hlayout⟩

theorem Token.MadeOf.mem {t : Token} {f : Fragment} (h : t.MadeOf text f) :
    f ∈ scan text := List.mem_of_getElem? h.number

theorem map_span_classifyQuery (v : Vocabulary) (text : String) (s : Stack) :
    (classifyQuery v text s).1.map (·.span)
      = (significant (scan text)).map (·.span) := by
  rw [← map_fragment_significantFrom 0, List.map_map]
  exact map_place_classify (fun _ span _ => span) v (scan text) s

/-- Every fragment that is no layout has a token at its place. -/
theorem exists_token_of_mem_scan (v : Vocabulary) (s : Stack) {f : Fragment}
    (hf : f ∈ scan text) (hlayout : f.kind.isLayout = false) :
    ∃ t ∈ (classifyQuery v text s).1, t.span = f.span := by
  have hspan : f.span ∈ (significant (scan text)).map (·.span) :=
    List.mem_map_of_mem (List.mem_filter.2 ⟨hf, by simp [hlayout]⟩)
  rw [← map_span_classifyQuery v text s] at hspan
  exact List.mem_map.1 hspan

theorem pairwise_classifyQuery (v : Vocabulary) (text : String) (s : Stack) :
    (classifyQuery v text s).1.Pairwise fun t u => t.span.Before u.span := by
  have hspans : ((classifyQuery v text s).1.map (·.span)).Pairwise
      Span.Before := by
    rw [map_span_classifyQuery, List.pairwise_map]
    exact (pairwise_scan text).filter _
  exact List.pairwise_map.1 hspans

-- ================================================================ coverage

/-- The offset lies in the span. -/
def Span.Holds (s : Span) (i : Nat) : Prop := s.start ≤ i ∧ (i : Int) < s.stop

/-- Tokens that hold, in order and each at its place, all of a text that is no
white space. -/
structure Covers (text : String) (ts : List Token) : Prop where
  nonempty : ∀ t ∈ ts, t.span.start < t.span.stop
  inside : ∀ t ∈ ts, 0 ≤ t.span.start ∧ t.span.stop ≤ text.length
  ordered : ts.Pairwise fun t u => t.span.Before u.span
  slice : ∀ t ∈ ts, t.text = t.span.slice text
  fragment : ∀ t ∈ ts, ∃ f, t.MadeOf text f
  visible : ∀ t ∈ ts, ∀ c ∈ t.text.toList.head?, isBlank c = false
  /-- What lies in no token is white space. -/
  blank : ∀ i c, text.toList[i]? = some c →
    (∀ t ∈ ts, ¬ t.span.Holds i) → isBlank c = true
  /-- What is no white space lies in one token. -/
  unique : ∀ i c, text.toList[i]? = some c → isBlank c = false →
    ∃! t, t ∈ ts ∧ t.span.Holds i

/-- Of spans that stand one behind the other, one alone holds an offset. -/
theorem eq_of_holds {ts : List Token} {i : Nat}
    (h : ts.Pairwise fun t u => t.span.Before u.span) {t u : Token}
    (ht : t ∈ ts) (hu : u ∈ ts) (hti : t.span.Holds i) (hui : u.span.Holds i) :
    t = u := by
  have hapart : ∀ t u : Token, t.span.Before u.span →
      ¬ (t.span.Holds i ∧ u.span.Holds i) := by
    simp only [Span.Before, Span.Holds]
    omega
  refine List.Pairwise.forall_of_forall_of_flip
    (R := fun t u : Token => t.span.Holds i → u.span.Holds i → t = u)
    (fun _ _ _ _ => rfl) ?_ ?_ ht hu hti hui
  · exact h.imp fun hbefore ht hu => (hapart _ _ hbefore ⟨ht, hu⟩).elim
  · exact h.imp fun hbefore hu ht => (hapart _ _ hbefore ⟨ht, hu⟩).elim

/-- What lies in no token lies in a fragment that is layout. -/
theorem blank_of_not_holds (v : Vocabulary) (s : Stack) {i : Nat} {c : Char}
    (hi : text.toList[i]? = some c)
    (hout : ∀ t ∈ (classifyQuery v text s).1, ¬ t.span.Holds i) :
    isBlank c = true := by
  have hlt : i < text.length := by
    rw [← String.length_toList]
    exact (List.getElem?_eq_some_iff.1 hi).1
  obtain ⟨f, hf, hstart, hstop⟩ := exists_mem_scan_of_lt hlt
  cases hlayout : f.kind.isLayout with
  | true =>
    refine blank_of_mem_scan hf hlayout c ?_
    exact List.mem_of_getElem?
      ((getElem?_text_of_mem_scan hf hstart hstop).trans hi)
  | false =>
    obtain ⟨t, ht, hspan⟩ := exists_token_of_mem_scan v s hf hlayout
    exact absurd (hspan ▸ ⟨hstart, hstop⟩) (hout t ht)

/-- Whatever the vocabulary and the brackets that are open at first, the
tokens of a query cover it. -/
theorem covers_classifyQuery (v : Vocabulary) (text : String) (s : Stack) :
    Covers text (classifyQuery v text s).1 where
  nonempty t ht := by
    obtain ⟨f, hf⟩ := exists_madeOf ht
    rw [← hf.span]
    exact (partition_scan text).nonempty f hf.mem
  inside t ht := by
    obtain ⟨f, hf⟩ := exists_madeOf ht
    obtain ⟨before, l, after, -, hplace⟩ := mem_scan_iff.1 hf.mem
    rw [← hf.span]
    refine ⟨?_, stop_le_of_mem_scan hf.mem⟩
    rw [hplace]
    exact Int.natCast_nonneg _
  ordered := pairwise_classifyQuery v text s
  slice t ht := by
    obtain ⟨f, hf⟩ := exists_madeOf ht
    rw [← hf.span, ← hf.text]
    exact (partition_scan text).slice f hf.mem
  fragment t ht := exists_madeOf ht
  visible t ht := by
    obtain ⟨f, hf⟩ := exists_madeOf ht
    rw [← hf.text]
    exact not_blank_of_mem_scan hf.mem hf.significant
  blank i c := blank_of_not_holds v s
  unique i c hi hc := by
    -- a character that no token holds would be blank
    have hsome : ∃ t ∈ (classifyQuery v text s).1, t.span.Holds i := by
      by_contra hnone
      rw [blank_of_not_holds v s hi fun t ht hti => hnone ⟨t, ht, hti⟩] at hc
      cases hc
    obtain ⟨t, ht, hti⟩ := hsome
    exact ⟨t, ⟨ht, hti⟩, fun u hu =>
      eq_of_holds (pairwise_classifyQuery v text s) hu.1 ht hu.2 hti⟩

end LogQuery
