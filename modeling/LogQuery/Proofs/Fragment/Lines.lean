/-
A query can be scanned line by line.

At the end of a line every extent stops as at the end of the text, so the
lexemes of a first part are the same whether the text ends there or goes on
with a line feed. The line feed is then a lexeme of its own, and scanning
starts afresh behind it. The one thing that carries over to the next line is
a block comment without its end; and it is the last lexeme of the first part,
since it takes everything.
-/
import LogQuery.Proofs.Fragment.Partition

namespace LogQuery

open Fragment Text

namespace Lexeme

/-- A block comment without its end leaves nothing behind. -/
theorem drop_eq_nil_of_isUnclosed {c : Char} {cs : List Char}
    (h : (first c cs).isUnclosed = true) :
    cs.drop (opening c cs).2 = [] := by
  have hprefix : ['/', '*'] <+: c :: cs.take (opening c cs).2 := by
    simp only [isUnclosed, Bool.and_eq_true] at h
    exact List.isPrefixOf_iff_prefix.1 h.1.2
  obtain ⟨hc, hstar⟩ := List.cons_prefix_cons.1 hprefix
  subst hc
  obtain ⟨rest, hrest⟩ := hstar.trans (List.take_prefix _ cs)
  subst hrest
  change (first '/' ('*' :: rest)).isUnclosed = true at h
  rw [isUnclosed_block, Bool.not_eq_true'] at h
  have hopen : ¬ ['*', '/'] <:+ rest.take (blockExtent rest) := by
    rw [← List.isSuffixOf_iff_suffix, h]
    exact Bool.false_ne_true
  have hall := (blockExtent_closed_or_all rest).resolve_left hopen
  rw [opening_slash]
  change ('*' :: rest).drop (blockExtent rest + 1) = []
  rw [List.drop_succ_cons, hall, List.drop_length]

/-- The lexemes of a line and of what follows it. -/
theorem ofChars_lineFeed {xs : List Char} (ys : List Char)
    (h : ∀ l ∈ (ofChars xs).getLast?, l.isUnclosed = false) :
    ofChars (xs ++ '\n' :: ys)
      = ofChars xs ++ ⟨.newline, ['\n']⟩ :: ofChars ys := by
  fun_induction ofChars xs with
  | case1 =>
    rw [List.nil_append, ofChars_cons]
    rfl
  | case2 c cs _ ih =>
    change ∀ l ∈ (first c cs :: ofChars (cs.drop (opening c cs).2)).getLast?,
      l.isUnclosed = false at h
    have hle := opening_le_length c cs
    -- a comment without an end would be the last lexeme
    have hfirst : (first c cs).isUnclosed = false := by
      by_contra hopen
      rw [Bool.not_eq_false] at hopen
      rw [drop_eq_nil_of_isUnclosed hopen, ofChars_nil] at h
      rw [h (first c cs) rfl] at hopen
      cases hopen
    have hrest : ∀ l ∈ (ofChars (cs.drop (opening c cs).2)).getLast?,
        l.isUnclosed = false := by
      intro l hl
      refine h l ?_
      rw [List.getLast?_cons, Option.mem_def.1 hl]
      rfl
    have hsame := opening_lineFeed ys hfirst
    have hlexeme : first c (cs ++ '\n' :: ys) = first c cs := by
      rw [first, first, hsame, List.take_append_of_le_length hle]
    rw [List.cons_append, ofChars_cons, hlexeme, hsame,
      List.drop_append_of_le_length hle, ih hrest]
    rfl

end Lexeme

/-- The fragment moved along the text. -/
def Fragment.shift (d : Int) (f : Fragment) : Fragment :=
  { f with span := ⟨f.span.start + d, f.span.stop + d⟩ }

/-- A block comment of which the end is missing: it does not end in a `*/`
that stands behind its `/*`. -/
def Fragment.isUnclosed (f : Fragment) : Bool :=
  f.kind = .comment && "/*".toList.isPrefixOf f.text.toList
    && !("*/".toList.isSuffixOf (f.text.toList.drop 2))

namespace Lexeme

theorem isUnclosed_placed (l : Lexeme) (start : Nat) :
    (l.placed start).isUnclosed = l.isUnclosed := by
  simp only [Fragment.isUnclosed, isUnclosed, placed, String.toList_ofList]
  rfl

theorem placed_add (l : Lexeme) (start d : Nat) :
    l.placed (start + d) = (l.placed start).shift d := by
  have hstop : ((start + d + l.chars.length : Nat) : Int)
      = ((start + l.chars.length : Nat) : Int) + d := by
    omega
  rw [placed, hstop]
  rfl

/-- Lexemes placed further on are shifted fragments. -/
theorem place_add (start d : Nat) (ls : List Lexeme) :
    place (start + d) ls = (place start ls).map (·.shift d) := by
  induction ls generalizing start with
  | nil => rfl
  | cons l ls ih =>
    have hstart : start + d + l.chars.length = start + l.chars.length + d := by
      omega
    rw [place_cons, place_cons, List.map_cons, placed_add, hstart, ih]

/-- The last fragment of a query is its last lexeme. -/
theorem getLast?_scan {text : String} {l : Lexeme}
    (h : (ofChars text.toList).getLast? = some l) :
    ∃ start, (scan text).getLast? = some (l.placed start) := by
  obtain ⟨init, hinit⟩ := List.getLast?_eq_some_iff.1 h
  refine ⟨0 + total init, ?_⟩
  rw [scan, hinit, place_append, place_cons, place_nil, List.getLast?_concat]

end Lexeme

/-- A query can be scanned line by line, unless a block comment goes on over
the end of the line. -/
theorem scan_append_line (a b : String)
    (h : ∀ f ∈ (scan a).getLast?, f.isUnclosed = false) :
    scan (a ++ "\n" ++ b)
      = scan a ++ ⟨.newline, ⟨a.length, a.length + 1⟩, "\n"⟩
        :: (scan b).map (·.shift (a.length + 1)) := by
  have hclosed : ∀ l ∈ (Lexeme.ofChars a.toList).getLast?,
      l.isUnclosed = false := by
    intro l hl
    obtain ⟨start, hlast⟩ := Lexeme.getLast?_scan hl
    rw [← Lexeme.isUnclosed_placed l start]
    exact h _ hlast
  have htext : (a ++ "\n" ++ b).toList = a.toList ++ '\n' :: b.toList := by
    simp
  have hstart : 0 + Lexeme.total (Lexeme.ofChars a.toList) = a.length := by
    rw [Lexeme.total_ofChars, String.length_toList, Nat.zero_add]
  have hrest := Lexeme.place_add 0 (a.length + 1) (Lexeme.ofChars b.toList)
  rw [Nat.zero_add] at hrest
  rw [scan, htext, Lexeme.ofChars_lineFeed _ hclosed, Lexeme.place_append,
    hstart, Lexeme.place_cons]
  change _ ++ _ :: Lexeme.place (a.length + 1) _ = _
  rw [hrest]
  rfl

/-- A line that ends inside a string, right behind a backslash: the next
line takes up neither. -/
theorem scan_append_line_open_string :
    (∀ f ∈ (scan "/**/ x=\"a\\").getLast?, f.isUnclosed = false)
      ∧ scan ("/**/ x=\"a\\" ++ "\n" ++ "b\"")
        = scan "/**/ x=\"a\\" ++ ⟨.newline, ⟨10, 11⟩, "\n"⟩
          :: (scan "b\"").map (·.shift 11) := by
  have hclosed : ∀ f ∈ (scan "/**/ x=\"a\\").getLast?,
      f.isUnclosed = false := by
    decide +kernel
  exact ⟨hclosed, scan_append_line "/**/ x=\"a\\" "b\"" hclosed⟩

end LogQuery
