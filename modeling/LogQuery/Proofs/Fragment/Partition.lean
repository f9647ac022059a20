/-
The fragments of a query partition it.

Scanning places lexemes one after the other, and the lexemes make up the
text. So the first fragment starts where the text starts, each next one where
the one before it stops, the last one stops where the text stops, and every
fragment holds the text of its span. No fragment is empty, since a lexeme
takes its first character. How far it reaches is told by its helper, and no
helper tells more than there is of the text.

A line feed is a fragment of its own, or it lies in a block comment: no other
extent passes one.
-/
import LogQuery.Proofs.Fragment.Lexeme
import Mathlib.Data.List.Chain

namespace LogQuery

open Fragment

-- =========================================================== placed lexemes

/-- The span is not empty, and the other one does not start before its
end. -/
def Span.Before (s t : Span) : Prop := s.start < s.stop ∧ s.stop ≤ t.start

namespace Lexeme

/-- The lexeme as the fragment that starts at an offset. -/
def placed (l : Lexeme) (start : Nat) : Fragment :=
  ⟨l.kind, ⟨(start : Int), ((start + l.chars.length : Nat) : Int)⟩,
    String.ofList l.chars⟩

/-- How many characters lexemes take together. -/
def total (ls : List Lexeme) : Nat := (ls.flatMap (·.chars)).length

@[simp] theorem total_nil : total [] = 0 := rfl

@[simp] theorem total_cons (l : Lexeme) (ls : List Lexeme) :
    total (l :: ls) = l.chars.length + total ls := by
  simp [total]

@[simp] theorem total_append (ls ms : List Lexeme) :
    total (ls ++ ms) = total ls + total ms := by
  simp [total]

theorem total_ofChars (cs : List Char) : total (ofChars cs) = cs.length := by
  rw [total, flatMap_chars_ofChars]

@[simp] theorem place_nil (start : Nat) : place start [] = [] := rfl

@[simp] theorem place_cons (start : Nat) (l : Lexeme) (ls : List Lexeme) :
    place start (l :: ls)
      = l.placed start :: place (start + l.chars.length) ls := rfl

theorem place_append (start : Nat) (ls ms : List Lexeme) :
    place start (ls ++ ms)
      = place start ls ++ place (start + total ls) ms := by
  induction ls generalizing start with
  | nil => rfl
  | cons l ls ih =>
    rw [List.cons_append, place_cons, place_cons, ih, List.cons_append,
      total_cons, Nat.add_assoc]

theorem length_place (start : Nat) (ls : List Lexeme) :
    (place start ls).length = ls.length := by
  induction ls generalizing start with
  | nil => rfl
  | cons l ls ih => rw [place_cons, List.length_cons, ih, List.length_cons]

/-- Placing lexemes keeps their characters. -/
theorem flatMap_text_place (start : Nat) (ls : List Lexeme) :
    (place start ls).flatMap (·.text.toList) = ls.flatMap (·.chars) := by
  induction ls generalizing start with
  | nil => rfl
  | cons l ls ih =>
    rw [place_cons, List.flatMap_cons, List.flatMap_cons, ih]
    simp [placed]

/-- A placed fragment stands behind the lexemes before it. -/
theorem mem_place_iff {f : Fragment} {start : Nat} {ls : List Lexeme} :
    f ∈ place start ls
      ↔ ∃ before l after, ls = before ++ l :: after
        ∧ f = l.placed (start + total before) := by
  constructor
  · intro hf
    induction ls generalizing start with
    | nil => cases hf
    | cons l ls ih =>
      rcases List.mem_cons.1 hf with rfl | hf
      · exact ⟨[], l, ls, rfl, rfl⟩
      · obtain ⟨before, m, after, rfl, rfl⟩ := ih hf
        refine ⟨l :: before, m, after, rfl, ?_⟩
        rw [total_cons, Nat.add_assoc]
  · rintro ⟨before, l, after, rfl, rfl⟩
    rw [place_append, place_cons]
    exact List.mem_append_right _ List.mem_cons_self

/-- Each fragment starts where the one before it stops. -/
theorem isChain_place (start : Nat) (ls : List Lexeme) :
    (place start ls).IsChain fun f g => g.span.start = f.span.stop := by
  induction ls generalizing start with
  | nil => exact List.IsChain.nil
  | cons l ls ih =>
    cases ls with
    | nil => exact List.IsChain.singleton _
    | cons m ls => exact List.IsChain.cons_cons rfl (ih _)

/-- Lexemes that are not empty are placed one behind the other. -/
theorem pairwise_place {ls : List Lexeme} (start : Nat)
    (h : ∀ l ∈ ls, l.chars ≠ []) :
    (place start ls).Pairwise fun f g => f.span.Before g.span := by
  induction ls generalizing start with
  | nil => exact .nil
  | cons l ls ih =>
    have hpos := List.length_pos_iff.2 (h l List.mem_cons_self)
    rw [place_cons]
    refine List.pairwise_cons.2 ⟨fun g hg => ?_,
      ih _ fun m hm => h m (List.mem_cons_of_mem _ hm)⟩
    obtain ⟨before, m, after, -, rfl⟩ := mem_place_iff.1 hg
    simp only [Span.Before, placed]
    omega

/-- The last fragment stops behind all lexemes. -/
theorem stop_of_getLast?_place {f : Fragment} {start : Nat} {ls : List Lexeme}
    (hf : (place start ls).getLast? = some f) :
    f.span.stop = ((start + total ls : Nat) : Int) := by
  rcases List.eq_nil_or_concat ls with rfl | ⟨init, l, rfl⟩
  · cases hf
  · rw [List.concat_eq_append, place_append, place_cons, place_nil,
      List.getLast?_concat] at hf
    cases hf
    simp [placed, Nat.add_assoc]

/-- Every character of the lexemes lies in one of them. -/
theorem exists_mem_place_of_lt {start i : Nat} {ls : List Lexeme}
    (hi : i < total ls) :
    ∃ f ∈ place start ls, f.span.start ≤ ((start + i : Nat) : Int)
      ∧ ((start + i : Nat) : Int) < f.span.stop := by
  induction ls generalizing start i with
  | nil => cases hi
  | cons l ls ih =>
    rw [place_cons]
    by_cases hl : i < l.chars.length
    · refine ⟨_, List.mem_cons_self, ?_, ?_⟩
      · simp only [placed]; omega
      · simp only [placed]; omega
    · rw [total_cons] at hi
      obtain ⟨f, hf, hstart, hstop⟩ :=
        @ih (start + l.chars.length) (i - l.chars.length) (by omega)
      have hsum : start + l.chars.length + (i - l.chars.length)
          = start + i := by omega
      rw [hsum] at hstart hstop
      exact ⟨f, List.mem_cons_of_mem _ hf, hstart, hstop⟩

/-- What follows the first lexemes of a text is cut as it is on its own. -/
theorem ofChars_drop {cs : List Char} {F G : List Lexeme}
    (h : ofChars cs = F ++ G) : ofChars (cs.drop (total F)) = G := by
  induction F generalizing cs with
  | nil => exact h
  | cons k F ih =>
    cases cs with
    | nil =>
      rw [ofChars_nil] at h
      cases h
    | cons c cs =>
      rw [ofChars_cons, List.cons_append] at h
      obtain ⟨rfl, hrest⟩ := List.cons.inj h
      rw [total_cons, length_chars_first, Nat.add_right_comm,
        List.drop_succ_cons, ← List.drop_drop]
      exact ih hrest

/-- What lexemes hold of line feeds: one alone, or some in a block
comment. -/
theorem lineFeed_mem {cs : List Char} {l : Lexeme} (hl : l ∈ ofChars cs)
    (h : '\n' ∈ l.chars) :
    l = ⟨.newline, ['\n']⟩
      ∨ (l.kind = .comment ∧ ['/', '*'] <+: l.chars) := by
  fun_induction ofChars cs with
  | case1 => cases hl
  | case2 c cs o ih =>
    rcases List.mem_cons.1 hl with rfl | hl
    · exact lineFeed_mem_first h
    · exact ih hl

end Lexeme

-- ================================================================= slices

/-- The part of a text that lies in a span. -/
def Span.slice (s : Span) (text : String) : String :=
  String.ofList ((text.toList.take s.stop.toNat).drop s.start.toNat)

theorem slice_placed {text : String} {before after : List Lexeme} {l : Lexeme}
    (h : text.toList = (before ++ l :: after).flatMap (·.chars)) :
    (l.placed (Lexeme.total before)).span.slice text
      = (l.placed (Lexeme.total before)).text := by
  have hsplit : text.toList = before.flatMap (·.chars)
      ++ (l.chars ++ after.flatMap (·.chars)) := by
    rw [h, List.flatMap_append, List.flatMap_cons]
  simp only [Span.slice, Lexeme.placed, Int.toNat_natCast]
  rw [hsplit, Lexeme.total, List.take_length_add_append, List.take_left,
    List.drop_left]

-- ============================================================== partitions

/-- The fragments `fs` follow each other through the text from its start to
its end, and none of them is empty. -/
structure Partition (text : String) (fs : List Fragment) : Prop where
  nonempty : ∀ f ∈ fs, f.span.start < f.span.stop
  first : ∀ f ∈ fs.head?, f.span.start = 0
  adjacent : fs.IsChain fun f g => g.span.start = f.span.stop
  last : ∀ f ∈ fs.getLast?, f.span.stop = text.length
  empty : fs = [] ↔ text = ""
  slice : ∀ f ∈ fs, f.text = f.span.slice text
  join : String.join (fs.map (·.text)) = text

/-- A fragment of a query is one of its lexemes, placed behind those before
it. -/
theorem mem_scan_iff {f : Fragment} {text : String} :
    f ∈ scan text
      ↔ ∃ before l after,
        Lexeme.ofChars text.toList = before ++ l :: after
          ∧ f = l.placed (Lexeme.total before) := by
  unfold scan
  rw [Lexeme.mem_place_iff]
  simp only [Nat.zero_add]

/-- A fragment is the first lexeme of the text that starts where it starts. -/
theorem exists_first_of_mem_scan {text : String} {f : Fragment}
    (hf : f ∈ scan text) :
    ∃ (p : Nat) (c : Char), f.span.start = p ∧ text.toList[p]? = some c
      ∧ f = (Lexeme.first c (text.toList.drop (p + 1))).placed p := by
  obtain ⟨before, l, after, hsplit, rfl⟩ := mem_scan_iff.1 hf
  have hbehind := Lexeme.ofChars_drop hsplit
  cases hdrop : text.toList.drop (Lexeme.total before) with
  | nil =>
    rw [hdrop, Lexeme.ofChars_nil] at hbehind
    cases hbehind
  | cons c cs =>
    rw [hdrop, Lexeme.ofChars_cons] at hbehind
    refine ⟨Lexeme.total before, c, rfl, ?_, ?_⟩
    · rw [← List.head?_drop, hdrop]
      rfl
    · rw [← List.tail_drop, hdrop, List.tail_cons, (List.cons.inj hbehind).1]

/-- The fragment ends where its helper says: the character at its start and
what follows tell its kind and how many characters more belong to it, and
there are as many. -/
def Fragment.EndsAsTold (text : String) (f : Fragment) : Prop :=
  ∃ (p : Nat) (c : Char), text.toList[p]? = some c
    ∧ let told := Lexeme.opening c (text.toList.drop (p + 1))
      p + 1 + told.2 ≤ text.length ∧ f.kind = told.1
        ∧ f.span = ⟨p, (p + 1 + told.2 : Nat)⟩

theorem endsAsTold_of_mem_scan {text : String} {f : Fragment}
    (hf : f ∈ scan text) : f.EndsAsTold text := by
  obtain ⟨p, c, -, hc, rfl⟩ := exists_first_of_mem_scan hf
  have hp : p < text.length := by
    rw [← String.length_toList]
    exact (List.getElem?_eq_some_iff.1 hc).1
  have hle := Lexeme.opening_le_length c (text.toList.drop (p + 1))
  have hlength := Lexeme.length_chars_first c (text.toList.drop (p + 1))
  rw [List.length_drop, String.length_toList] at hle
  refine ⟨p, c, hc, by omega, rfl, ?_⟩
  simp only [Lexeme.placed, hlength, Span.mk.injEq, true_and]
  omega

theorem length_ofChars_le (cs : List Char) :
    (Lexeme.ofChars cs).length ≤ cs.length := by
  fun_induction Lexeme.ofChars cs with
  | case1 => exact Nat.le_refl 0
  | case2 c cs o ih =>
    rw [List.length_drop] at ih
    rw [List.length_cons, List.length_cons]
    omega

theorem partition_scan (text : String) : Partition text (scan text) where
  nonempty f hf := by
    obtain ⟨before, l, after, hsplit, rfl⟩ := mem_scan_iff.1 hf
    have hl : l ∈ Lexeme.ofChars text.toList := by simp [hsplit]
    have := List.length_pos_iff.2 (Lexeme.chars_ne_nil hl)
    simp only [Lexeme.placed]
    omega
  first f hf := by
    unfold scan at hf
    generalize Lexeme.ofChars text.toList = ls at hf
    cases ls with
    | nil => cases hf
    | cons l ls => cases hf; rfl
  adjacent := Lexeme.isChain_place 0 _
  last f hf := by
    rw [Lexeme.stop_of_getLast?_place hf, Lexeme.total_ofChars,
      String.length_toList, Nat.zero_add]
  empty := by
    rw [← String.toList_eq_nil_iff]
    unfold scan
    cases text.toList with
    | nil => simp
    | cons c cs => simp [Lexeme.ofChars_cons]
  slice f hf := by
    obtain ⟨before, l, after, hsplit, rfl⟩ := mem_scan_iff.1 hf
    have hchars := Lexeme.flatMap_chars_ofChars text.toList
    rw [hsplit] at hchars
    exact (slice_placed hchars.symm).symm
  join := by
    rw [← String.toList_inj, String.toList_join, List.flatMap_map, scan,
      Lexeme.flatMap_text_place, Lexeme.flatMap_chars_ofChars]

/-- The fragments of a query stand one behind the other. -/
theorem pairwise_scan (text : String) :
    (scan text).Pairwise fun f g => f.span.Before g.span :=
  Lexeme.pairwise_place 0 fun _ hl => Lexeme.chars_ne_nil hl

theorem stop_le_of_mem_scan {text : String} {f : Fragment}
    (hf : f ∈ scan text) : f.span.stop ≤ text.length := by
  obtain ⟨before, l, after, hsplit, rfl⟩ := mem_scan_iff.1 hf
  have htotal := Lexeme.total_ofChars text.toList
  rw [hsplit, Lexeme.total_append, Lexeme.total_cons,
    String.length_toList] at htotal
  simp only [Lexeme.placed]
  omega

/-- Every character of a query lies in a fragment. -/
theorem exists_mem_scan_of_lt {text : String} {i : Nat}
    (hi : i < text.length) :
    ∃ f ∈ scan text, f.span.start ≤ i ∧ i < f.span.stop := by
  have hlt : i < Lexeme.total (Lexeme.ofChars text.toList) := by
    rwa [Lexeme.total_ofChars, String.length_toList]
  have h := @Lexeme.exists_mem_place_of_lt 0 i _ hlt
  rwa [Nat.zero_add] at h

/-- A fragment holds the characters of the query at its place. -/
theorem getElem?_text_of_mem_scan {text : String} {f : Fragment}
    (hf : f ∈ scan text) {i : Nat} (hstart : f.span.start ≤ i)
    (hstop : i < f.span.stop) :
    f.text.toList[i - f.span.start.toNat]? = text.toList[i]? := by
  have hnonneg : 0 ≤ f.span.start := by
    obtain ⟨before, l, after, -, rfl⟩ := mem_scan_iff.1 hf
    exact Int.natCast_nonneg _
  have hi : f.span.start.toNat + (i - f.span.start.toNat) = i := by omega
  rw [(partition_scan text).slice f hf, Span.slice, String.toList_ofList,
    List.getElem?_drop, hi, List.getElem?_take_of_lt (by omega)]

-- ============================================================= line feeds

/-- The fragments that may hold line feeds: a single line feed, and block
comments. -/
def Fragment.BreaksLine (f : Fragment) : Prop :=
  (f.kind = .newline ∧ f.text = "\n")
    ∨ (f.kind = .comment ∧ "/*".toList <+: f.text.toList)

theorem breaksLine_of_mem {text : String} {f : Fragment} (hf : f ∈ scan text)
    (h : '\n' ∈ f.text.toList) : f.BreaksLine := by
  obtain ⟨before, l, after, hsplit, rfl⟩ := mem_scan_iff.1 hf
  have hl : l ∈ Lexeme.ofChars text.toList := by simp [hsplit]
  simp only [Lexeme.placed, String.toList_ofList] at h
  rcases Lexeme.lineFeed_mem hl h with rfl | ⟨hkind, hchars⟩
  · exact Or.inl ⟨rfl, rfl⟩
  · refine Or.inr ⟨hkind, ?_⟩
    simpa [Lexeme.placed] using hchars

/-- Scanning ends, and its fragments partition the text. Each of them ends
where its helper says, which is never past the end of the text. A line feed of
the text is a fragment of its own or lies in a block comment, and no other
fragment holds one. -/
theorem scan_lossless (text : String) :
    (scan text).length ≤ text.length
      ∧ Partition text (scan text)
      ∧ (∀ f ∈ scan text, f.EndsAsTold text)
      ∧ (∀ f ∈ scan text, '\n' ∈ f.text.toList → f.BreaksLine)
      ∧ ∀ i : Nat, text.toList[i]? = some '\n' →
          ∃ f ∈ scan text, f.span.start ≤ i ∧ i < f.span.stop
            ∧ f.BreaksLine := by
  refine ⟨?_, partition_scan text, fun f hf => endsAsTold_of_mem_scan hf,
    fun f hf => breaksLine_of_mem hf, ?_⟩
  · rw [scan, Lexeme.length_place, ← String.length_toList]
    exact length_ofChars_le text.toList
  · intro i hi
    have hlt : i < text.length := by
      rw [← String.length_toList]
      exact (List.getElem?_eq_some_iff.1 hi).1
    obtain ⟨f, hf, hstart, hstop⟩ := exists_mem_scan_of_lt hlt
    refine ⟨f, hf, hstart, hstop, breaksLine_of_mem hf ?_⟩
    exact List.mem_of_getElem?
      ((getElem?_text_of_mem_scan hf hstart hstop).trans hi)

end LogQuery
