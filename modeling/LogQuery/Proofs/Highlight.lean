/-
The painted query beside the query.

Tokens are counted in the query as it was given, and their styles are put on a
text from which some control characters have been left out. Where there are
none of these, the painted text is the query and each style covers exactly the
text of its token. Where there are, the text is shorter than the query: styles
behind the first of them cover the wrong characters, and the last ones are cut
off or lost.
-/
import LogQuery.Highlight
import LogQuery.Proofs.Fragment.Partition
import LogQuery.Proofs.Token.Point

namespace LogQuery

variable {v : Vocabulary} {styles : Styles} {query : String}

-- ================================================================== painting

/-- The span that a token asks for: none if its style is empty. -/
def Token.painted? (styles : Styles) (t : Token) : Option StyledSpan :=
  if styles.style t.category = "" then none
  else some ⟨t.span, styles.style t.category⟩

/-- What is left of a span in a text of a given length. -/
def StyledSpan.clip? (length : Int) (s : StyledSpan) : Option StyledSpan :=
  if length ≤ s.span.start || s.span.stop ≤ s.span.start then none
  else some ⟨⟨s.span.start, min length s.span.stop⟩, s.style⟩

namespace Styled

theorem stylize_eq (t : Styled) (style : String) (span : Span) :
    t.stylize style span
      = ⟨t.plain, t.spans
        ++ (StyledSpan.clip? t.plain.length ⟨span, style⟩).toList⟩ := by
  unfold stylize StyledSpan.clip?
  dsimp only
  split
  · rw [Option.toList_none, List.append_nil]
  · rfl

end Styled

/-- A token adds its span, if it has a style, as far as the text goes. -/
theorem paint_cons (styles : Styles) (t : Token) (ts : List Token)
    (text : Styled) :
    paint styles (t :: ts) text
      = paint styles ts ⟨text.plain, text.spans
        ++ ((t.painted? styles).bind (·.clip? text.plain.length)).toList⟩ := by
  have hcons : paint styles (t :: ts) text
      = paint styles ts (if styles.style t.category = "" then text
        else text.stylize (styles.style t.category) t.span) := rfl
  rw [hcons]
  by_cases hstyle : styles.style t.category = ""
  · have hnone : t.painted? styles = none := if_pos hstyle
    rw [if_pos hstyle, hnone, Option.bind_none, Option.toList_none,
      List.append_nil]
  · have hsome : t.painted? styles
        = some ⟨t.span, styles.style t.category⟩ := if_neg hstyle
    rw [if_neg hstyle, hsome, Option.bind_some, Styled.stylize_eq]

/-- Painting adds the spans of the tokens, clipped to the text. -/
theorem paint_eq (styles : Styles) (ts : List Token) (text : Styled) :
    paint styles ts text
      = ⟨text.plain, text.spans ++ (ts.filterMap (·.painted? styles)).filterMap
        (·.clip? text.plain.length)⟩ := by
  rw [List.filterMap_filterMap, List.filterMap_eq_flatMap_toList]
  induction ts generalizing text with
  | nil => simp [paint]
  | cons t ts ih =>
    rw [paint_cons, ih, List.flatMap_cons, List.append_assoc]

-- ======================================================= tokens in the text

/-- A token has the place and the text of a fragment. -/
theorem exists_fragment_of_mem_tokens {t : Token} (ht : t ∈ tokens v query) :
    ∃ f ∈ scan query, t.span = f.span ∧ t.text = f.text := by
  obtain ⟨i, ht⟩ := List.mem_iff_getElem?.1 ht
  obtain ⟨n, hn⟩ := exists_of_getElem?_tokens ht
  rw [getElem?_tokens hn] at ht
  obtain rfl := Option.some.inj ht
  have hmem : n.fragment ∈ significant (scan query) := by
    rw [← map_fragment_significantFrom 0]
    exact List.mem_map_of_mem (List.mem_of_getElem? hn)
  exact ⟨n.fragment, List.mem_of_mem_filter hmem, rfl, rfl⟩

/-- A token covers its text in the query. -/
theorem slice_of_mem_tokens {t : Token} (ht : t ∈ tokens v query) :
    t.span.slice query = t.text := by
  obtain ⟨f, hf, hspan, htext⟩ := exists_fragment_of_mem_tokens ht
  rw [hspan, htext]
  exact ((partition_scan query).slice f hf).symm

/-- In a text as long as the query, no token is clipped. -/
theorem clip?_of_mem_tokens {t : Token} (ht : t ∈ tokens v query)
    (style : String) :
    StyledSpan.clip? query.length ⟨t.span, style⟩ = some ⟨t.span, style⟩ := by
  obtain ⟨f, hf, hspan, -⟩ := exists_fragment_of_mem_tokens ht
  have hnonempty := (partition_scan query).nonempty f hf
  have hstop := stop_le_of_mem_scan hf
  rw [← hspan] at hnonempty hstop
  have hinside : ¬ ((query.length : Int) ≤ t.span.start
      ∨ t.span.stop ≤ t.span.start) := by omega
  rw [StyledSpan.clip?, if_neg (by simpa using hinside), Int.min_eq_right hstop]

theorem filterMap_clip?_painted? (styles : Styles) {ts : List Token}
    (h : ∀ t ∈ ts, t ∈ tokens v query) :
    (ts.filterMap (·.painted? styles)).filterMap (·.clip? query.length)
      = ts.filterMap (·.painted? styles) := by
  rw [List.filterMap_filterMap]
  refine List.filterMap_congr fun t ht => ?_
  unfold Token.painted?
  split
  · rfl
  · exact clip?_of_mem_tokens (h t ht) _

-- ============================================================ painted queries

/-- None of the characters of the query is left out of a text. -/
def KeptAsText (query : String) : Prop :=
  ∀ c ∈ query.toList, Styled.isDropped c = false

theorem keptAsText_iff :
    KeptAsText query
      ↔ (query.toList.all fun c => !Styled.isDropped c) = true := by
  rw [List.all_eq_true]
  simp only [Bool.not_eq_true', KeptAsText]

instance (query : String) : Decidable (KeptAsText query) :=
  decidable_of_iff _ keptAsText_iff.symm

theorem plain_ofText_iff :
    (Styled.ofText query).plain = query ↔ KeptAsText query := by
  rw [Styled.ofText, ← String.toList_inj, String.toList_ofList,
    List.filter_eq_self, keptAsText_iff, List.all_eq_true]

/-- The painted text is the query without the characters that a text leaves
out, and the styles are those of the tokens, in order, clipped to that text.
Exactly if no character is left out, the text is the query; then each token
that has a style is painted as a whole and covers its own text. -/
theorem highlight_aligned (v : Vocabulary) (styles : Styles)
    (query : String) :
    (highlight v styles query).plain
        = String.ofList (query.toList.filter fun c => !Styled.isDropped c)
      ∧ (highlight v styles query).spans
        = ((tokens v query).filterMap (·.painted? styles)).filterMap
          (·.clip? (highlight v styles query).plain.length)
      ∧ ((highlight v styles query).plain = query ↔ KeptAsText query)
      ∧ (KeptAsText query →
        (highlight v styles query).spans
            = (tokens v query).filterMap (·.painted? styles)
          ∧ ∀ t ∈ tokens v query,
            t.span.slice (highlight v styles query).plain = t.text) := by
  have hplain : (highlight v styles query).plain
      = (Styled.ofText query).plain := by
    rw [highlight, paint_eq]
  have hspans : (highlight v styles query).spans
      = ((tokens v query).filterMap (·.painted? styles)).filterMap
        (·.clip? (highlight v styles query).plain.length) := by
    rw [hplain, highlight, paint_eq]
    rfl
  refine ⟨hplain, hspans, by rw [hplain]; exact plain_ofText_iff, ?_⟩
  intro hkept
  have hquery := hplain.trans (plain_ofText_iff.2 hkept)
  rw [hspans, hquery]
  exact ⟨filterMap_clip?_painted? styles fun _ ht => ht,
    fun _ ht => slice_of_mem_tokens ht⟩

/-- A query that is painted as it is, with a style of its own for operators and
none for values. -/
theorem highlight_aligned_filter :
    let styles : Styles := [("operator", "red"), ("value", "")]
    KeptAsText "a = 1\n// all"
      ∧ (highlight .empty styles "a = 1\n// all").plain = "a = 1\n// all"
      ∧ (highlight .empty styles "a = 1\n// all").spans
        = [⟨⟨0, 1⟩, "bold #87D7FF"⟩, ⟨⟨2, 3⟩, "red"⟩,
          ⟨⟨6, 12⟩, "italic #808080"⟩] := by
  intro styles
  have hkept : KeptAsText "a = 1\n// all" := by decide +kernel
  obtain ⟨-, -, hplain, hspans⟩ :=
    highlight_aligned .empty styles "a = 1\n// all"
  refine ⟨hkept, hplain.2 hkept, ?_⟩
  rw [(hspans hkept).1]
  decide +kernel

/-- A carriage return is left out of the text, and behind it the styles are one
character off: the style of `b` is put on the operator. -/
theorem highlight_carriage_return :
    (highlight .empty [] "a=1\r\nb=2").plain ≠ "a=1\r\nb=2"
      ∧ (highlight .empty [] "a=1\r\nb=2").spans
        ≠ (tokens .empty "a=1\r\nb=2").filterMap (·.painted? [])
      ∧ ∃ t ∈ tokens .empty "a=1\r\nb=2", t.text = "b"
        ∧ ⟨t.span, t.category.style⟩
          ∈ (highlight .empty [] "a=1\r\nb=2").spans
        ∧ t.span.slice (highlight .empty [] "a=1\r\nb=2").plain = "=" := by
  decide +kernel

end LogQuery
