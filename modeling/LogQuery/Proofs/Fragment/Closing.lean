/-
Where strings and regular expressions end.

Both end at a mark on their own line, a quote or a slash, and a backslash
takes the character behind it along, so that a mark behind it ends nothing.
Extents find the mark by jumping over two characters at each backslash. Of one
mark by itself this can be told without reading what comes before: it stands
on the line, and the backslashes right before it pair up. An odd one would
take the mark along.

Where no mark closes, a string ends with its line and a slash stands alone. A
line feed is never taken along, so a backslash at the end of the line makes no
difference.
-/
import LogQuery.Proofs.Fragment.Boundary
import Mathlib.Algebra.Group.Nat.Even
import Mathlib.Data.List.DropRight
import Mathlib.Order.Bounds.Basic

namespace LogQuery

open Fragment Text

namespace Fragment

variable {mark c d : Char} {cs : List Char} {j : Nat}

-- ============================================================= backslashes

/-- How many backslashes stand at the end of the characters. -/
def backslashRun (cs : List Char) : Nat := (cs.rtakeWhile (· = '\\')).length

theorem backslashRun_le_length (cs : List Char) :
    backslashRun cs ≤ cs.length :=
  (List.rtakeWhile_suffix (· = '\\') cs).length_le

/-- A character in front lengthens the run only if it is a backslash with
nothing but backslashes behind it. -/
theorem backslashRun_cons (c : Char) (cs : List Char) :
    backslashRun (c :: cs)
      = backslashRun cs
        + if c = '\\' ∧ backslashRun cs = cs.length then 1 else 0 := by
  have hrun : ∀ ds : List Char, backslashRun ds
      = (ds.reverse.takeWhile (· = '\\')).length := by
    intro ds
    rw [backslashRun, List.rtakeWhile, List.length_reverse]
  rw [hrun, hrun, List.reverse_cons, List.takeWhile_append]
  by_cases hall : (cs.reverse.takeWhile (· = '\\')).length = cs.length
  · by_cases hc : c = '\\'
    · simp [hall, hc]
    · simp [hall, hc]
  · simp [hall]

/-- Another character in front of a run does not belong to it. -/
theorem backslashRun_cons_of_ne (hc : c ≠ '\\') (cs : List Char) :
    backslashRun (c :: cs) = backslashRun cs := by
  rw [backslashRun_cons, if_neg fun h => hc h.1, Nat.add_zero]

/-- A backslash and what it takes along do not change whether the backslashes
behind them pair up. -/
theorem even_backslashRun_escape (d : Char) (cs : List Char) :
    Even (backslashRun ('\\' :: d :: cs)) ↔ Even (backslashRun cs) := by
  have hle := backslashRun_le_length cs
  rw [Nat.even_iff, Nat.even_iff, backslashRun_cons, backslashRun_cons d,
    List.length_cons]
  by_cases hd : d = '\\' ∧ backslashRun cs = cs.length
  · rw [if_pos hd, if_pos ⟨rfl, by omega⟩]
    omega
  · rw [if_neg hd, if_neg (by omega)]
    omega

-- =========================================================== closing marks

/-- The mark at an offset closes what goes on in front of it: it stands on
the first line, and the backslashes right before it pair up. -/
structure IsClosing (mark : Char) (cs : List Char) (j : Nat) : Prop where
  onLine : j < cs.findIdx (· = '\n')
  marked : cs[j]? = some mark
  paired : Even (backslashRun (cs.take j))

theorem not_isClosing_lineFeed (mark : Char) (cs : List Char) (j : Nat) :
    ¬ IsClosing mark ('\n' :: cs) j := by
  intro h
  have := h.onLine
  simp [List.findIdx_cons] at this

/-- A mark that starts the text closes at once. -/
theorem isClosing_mark (hfeed : mark ≠ '\n') (cs : List Char) :
    IsClosing mark (mark :: cs) 0 where
  onLine := by simp [List.findIdx_cons, hfeed]
  marked := rfl
  paired := by simp [backslashRun]

theorem not_isClosing_zero (hc : c ≠ mark) (cs : List Char) :
    ¬ IsClosing mark (c :: cs) 0 := by
  intro h
  exact hc (Option.some.inj h.marked)

/-- Behind a character that takes nothing along, the same marks close. -/
theorem isClosing_cons_succ (hfeed : c ≠ '\n') (hc : StandsAlone c cs) :
    IsClosing mark (c :: cs) (j + 1) ↔ IsClosing mark cs j := by
  have hline : j + 1 < (c :: cs).findIdx (· = '\n')
      ↔ j < cs.findIdx (· = '\n') := by
    simp [List.findIdx_cons, hfeed]
  have hrun : j < cs.findIdx (· = '\n') →
      backslashRun ((c :: cs).take (j + 1)) = backslashRun (cs.take j) := by
    intro hj
    rw [List.take_succ_cons]
    by_cases hb : c = '\\'
    · -- a backslash that stands alone has no line behind it
      subst hb
      cases cs with
      | nil => simp at hj
      | cons d cs =>
        obtain rfl : d = '\n' := hc rfl d rfl
        simp [List.findIdx_cons] at hj
    · exact backslashRun_cons_of_ne hb _
  constructor
  · intro h
    have hj := hline.1 h.onLine
    exact ⟨hj, h.marked, hrun hj ▸ h.paired⟩
  · intro h
    exact ⟨hline.2 h.onLine, h.marked, (hrun h.onLine).symm ▸ h.paired⟩

/-- What a backslash takes along closes nothing. -/
theorem not_isClosing_one (mark : Char) (cs : List Char) :
    ¬ IsClosing mark ('\\' :: cs) 1 := by
  intro h
  cases cs with
  | nil => simpa using h.marked
  | cons d cs =>
    have hodd : backslashRun (('\\' :: d :: cs).take 1) = 1 := rfl
    have := h.paired
    rw [hodd] at this
    exact absurd this (by decide)

/-- Behind a backslash and what it takes along, the same marks close. -/
theorem isClosing_escape (hd : d ≠ '\n') :
    IsClosing mark ('\\' :: d :: cs) (j + 2) ↔ IsClosing mark cs j := by
  have hline : j + 2 < ('\\' :: d :: cs).findIdx (· = '\n')
      ↔ j < cs.findIdx (· = '\n') := by
    simp [List.findIdx_cons, hd]
  have hrun := even_backslashRun_escape d (cs.take j)
  constructor
  · intro h
    exact ⟨hline.1 h.onLine, h.marked, hrun.1 h.paired⟩
  · intro h
    exact ⟨hline.2 h.onLine, h.marked, hrun.2 h.paired⟩

-- ============================================================== the search

/-- The first mark on the line that no backslash takes along. -/
def closing? (mark : Char) : List Char → Option Nat
  | [] => none
  | '\n' :: _ => none
  | '\\' :: c :: cs =>
    if c = '\n' then none else (closing? mark cs).map (· + 2)
  | c :: cs => if c = mark then some 0 else (closing? mark cs).map (· + 1)

/-- The search goes past what takes nothing along and is no mark. -/
theorem closing?_cons (hfeed : c ≠ '\n')
    (hescape : ∀ d rest, c = '\\' → cs = d :: rest → False)
    (hmark : c ≠ mark) :
    closing? mark (c :: cs) = (closing? mark cs).map (· + 1) := by
  rw [closing?.eq_4 mark c cs hfeed hescape, if_neg hmark]

/-- What the search finds is a closing mark. -/
theorem isClosing_of_closing? (hfeed : mark ≠ '\n')
    (h : closing? mark cs = some j) : IsClosing mark cs j := by
  fun_induction closing? mark cs generalizing j with
  | case1 => cases h
  | case2 cs => cases h
  | case3 cs => cases h
  | case4 d cs hd ih =>
    obtain ⟨k, hk, rfl⟩ := Option.map_eq_some_iff.1 h
    exact (isClosing_escape hd).2 (ih hk)
  | case5 cs _ _ =>
    obtain rfl := Option.some.inj h
    exact isClosing_mark hfeed cs
  | case6 c cs hc hescape hmark ih =>
    obtain ⟨k, hk, rfl⟩ := Option.map_eq_some_iff.1 h
    exact (isClosing_cons_succ hc (standsAlone_of_ne hescape)).2 (ih hk)

/-- The search goes past no closing mark. -/
theorem exists_closing?_le {i : Nat} (hback : mark ≠ '\\')
    (h : IsClosing mark cs i) : ∃ j, closing? mark cs = some j ∧ j ≤ i := by
  fun_induction closing? mark cs generalizing i with
  | case1 => simpa using h.marked
  | case2 cs => exact (not_isClosing_lineFeed mark cs i h).elim
  | case3 cs =>
    -- the search ends at the line feed behind the backslash
    have halone : StandsAlone '\\' ('\n' :: cs) := fun _ d hd => by
      simpa using hd.symm
    match i with
    | 0 => exact (not_isClosing_zero hback.symm _ h).elim
    | i + 1 =>
      have hbehind := (isClosing_cons_succ (by decide) halone).1 h
      exact (not_isClosing_lineFeed mark cs i hbehind).elim
  | case4 d cs hd ih =>
    match i with
    -- neither the backslash nor what it takes along closes
    | 0 => exact (not_isClosing_zero hback.symm _ h).elim
    | 1 => exact (not_isClosing_one mark _ h).elim
    | i + 2 =>
      obtain ⟨j, hj, hle⟩ := ih ((isClosing_escape hd).1 h)
      exact ⟨j + 2, by rw [hj, Option.map_some], by omega⟩
  | case5 cs _ _ => exact ⟨0, rfl, Nat.zero_le i⟩
  | case6 c cs hc hescape hmark ih =>
    match i with
    | 0 => exact (not_isClosing_zero hmark _ h).elim
    | i + 1 =>
      have halone := standsAlone_of_ne hescape
      obtain ⟨j, hj, hle⟩ := ih ((isClosing_cons_succ hc halone).1 h)
      exact ⟨j + 1, by rw [hj, Option.map_some], by omega⟩

-- ======================================================= extents by the search

theorem stringExtent_eq (cs : List Char) :
    stringExtent cs
      = (closing? '"' cs).elim (cs.findIdx (· = '\n')) (· + 1) := by
  fun_induction stringExtent cs with
  | case1 => rfl
  | case2 cs => simp [closing?, List.findIdx_cons]
  | case3 cs => simp [closing?, List.findIdx_cons]
  -- an escape puts mark and line end off by two
  | case4 d cs hd ih =>
    rw [ih, closing?, if_neg hd]
    cases closing? '"' cs with
    | none => simp [List.findIdx_cons, hd]
    | some j => rfl
  | case5 cs => simp [closing?]
  | case6 c cs hfeed hescape hquote ih =>
    rw [ih, closing?_cons hfeed hescape hquote]
    cases closing? '"' cs with
    | none => simp [List.findIdx_cons, show c ≠ '\n' from hfeed]
    | some j => rfl

theorem regexExtent?_eq (cs : List Char) :
    regexExtent? cs
      = (closing? '/' cs).map fun j =>
          j + 1 + flagExtent (cs.drop (j + 1)) := by
  fun_induction regexExtent? cs with
  | case1 => rfl
  | case2 cs => rfl
  | case3 cs => rfl
  | case4 d cs hd ih =>
    rw [ih, closing?, if_neg hd]
    cases closing? '/' cs with
    | none => rfl
    | some j => simp; omega
  | case5 cs => simp [closing?, Nat.add_comm]
  | case6 c cs hfeed hescape hslash ih =>
    rw [ih, closing?_cons hfeed hescape hslash]
    cases closing? '/' cs with
    | none => rfl
    | some j => simp; omega

end Fragment

-- ============================================================ in a query

/-- Where the line of an offset ends: at the first line feed behind the
offset, or at the end of the text. -/
def lineEnd (text : String) (p : Nat) : Nat :=
  p + 1 + (text.toList.drop (p + 1)).findIdx (· = '\n')

/-- The mark at `q` closes what starts at `p`: it stands behind `p` on the
same line, and the backslashes behind `p` that stand right before it pair
up. -/
structure Closes (text : String) (p : Nat) (mark : Char) (q : Nat) : Prop where
  behind : p < q
  onLine : q < lineEnd text p
  marked : text.toList[q]? = some mark
  paired : Even (backslashRun ((text.toList.take q).drop (p + 1)))

/-- How many flags stand at an offset: the letters of a run of flag letters,
unless the run goes on as a longer word. -/
def flagsAt (text : String) (i : Nat) : Nat :=
  let run := ((text.toList.drop i).takeWhile isFlag).length
  if text.toList[i + run]?.any isWordChar then 0 else run

variable {text : String} {f : Fragment} {p j : Nat} {mark : Char}

theorem closes_iff :
    Closes text p mark (p + 1 + j)
      ↔ IsClosing mark (text.toList.drop (p + 1)) j := by
  have hbetween : (text.toList.take (p + 1 + j)).drop (p + 1)
      = (text.toList.drop (p + 1)).take j := by
    rw [List.drop_take, Nat.add_sub_cancel_left]
  constructor
  · intro h
    refine ⟨Nat.lt_of_add_lt_add_left h.onLine, ?_, hbetween ▸ h.paired⟩
    rw [List.getElem?_drop]
    exact h.marked
  · intro h
    refine ⟨by omega, Nat.add_lt_add_left h.onLine _, ?_, ?_⟩
    · rw [← List.getElem?_drop]
      exact h.marked
    · rw [hbetween]
      exact h.paired

/-- What the search finds behind an offset is the first mark that closes. -/
theorem isLeast_closes (hfeed : mark ≠ '\n') (hback : mark ≠ '\\')
    (h : closing? mark (text.toList.drop (p + 1)) = some j) :
    IsLeast {q | Closes text p mark q} (p + 1 + j) := by
  refine ⟨closes_iff.2 (isClosing_of_closing? hfeed h), fun q hq => ?_⟩
  obtain ⟨i, rfl⟩ := Nat.exists_eq_add_of_le (Nat.succ_le_of_lt hq.behind)
  obtain ⟨k, hk, hle⟩ := exists_closing?_le hback (closes_iff.1 hq)
  obtain rfl : j = k := Option.some.inj (h.symm.trans hk)
  exact Nat.add_le_add_left hle _

theorem not_closes (hback : mark ≠ '\\')
    (h : closing? mark (text.toList.drop (p + 1)) = none) (q : Nat) :
    ¬ Closes text p mark q := by
  intro hq
  obtain ⟨i, rfl⟩ := Nat.exists_eq_add_of_le (Nat.succ_le_of_lt hq.behind)
  obtain ⟨k, hk, -⟩ := exists_closing?_le hback (closes_iff.1 hq)
  rw [h] at hk
  cases hk

theorem flagExtent_drop (text : String) (i : Nat) :
    flagExtent (text.toList.drop i) = flagsAt text i := by
  rw [flagExtent, flagsAt, List.drop_drop, List.head?_drop]

/-- A string ends behind the first quote that closes it, and where there is
none with its line. -/
theorem string_ends_at_quote (hf : f ∈ scan text) (hp : f.span.start = p)
    (hquote : text.toList[p]? = some '"') :
    f.kind = .quotedString
      ∧ (((∀ q, ¬ Closes text p '"' q) ∧ f.span.stop = lineEnd text p)
        ∨ ∃ q, IsLeast {r | Closes text p '"' r} q
          ∧ f.span.stop = (q + 1 : Nat)) := by
  have hfirst := eq_first_of_mem_scan hf hp hquote
  have hopening := Lexeme.opening_quote (text.toList.drop (p + 1))
  have hlength := Lexeme.length_chars_first '"' (text.toList.drop (p + 1))
  rw [hopening, stringExtent_eq] at hlength
  rw [hfirst]
  refine ⟨congrArg Prod.fst hopening, ?_⟩
  simp only [Lexeme.placed, hlength]
  cases hclosing : closing? '"' (text.toList.drop (p + 1)) with
  | none =>
    refine Or.inl ⟨not_closes (by decide) hclosing, ?_⟩
    simp only [Option.elim_none, lineEnd]
    omega
  | some j =>
    refine Or.inr ⟨_, isLeast_closes (by decide) (by decide) hclosing, ?_⟩
    simp only [Option.elim_some]
    omega

/-- A quote behind a backslash does not end its string. -/
theorem string_ends_at_quote_escaped :
    let text := "x=\"a\\\"b\" y"
    let f : Fragment := ⟨.quotedString, ⟨2, 8⟩, "\"a\\\"b\""⟩
    f ∈ scan text ∧ f.span.start = 2 ∧ text.toList[2]? = some '"'
      ∧ IsLeast {q | Closes text 2 '"' q} 7 := by
  intro text f
  have hf : f ∈ scan text := by decide +kernel
  have hstart : f.span.start = 2 := rfl
  have hquote : text.toList[2]? = some '"' := by decide
  obtain ⟨-, ⟨-, hstop⟩ | ⟨q, hleast, hstop⟩⟩ :=
    string_ends_at_quote hf hstart hquote
  · have hline : (8 : Int) ≠ lineEnd text 2 := by decide +kernel
    exact absurd hstop hline
  · have hseven : (8 : Int) = (q + 1 : Nat) := hstop
    obtain rfl : q = 7 := by omega
    exact ⟨hf, hstart, hquote, hleast⟩

/-- A slash that starts no comment starts a regular expression up to the first
slash that closes it, with the flags behind that one. Where there is none it
stands alone. -/
theorem slash_starts_regex_or_stands_alone (hf : f ∈ scan text)
    (hp : f.span.start = p) (hslash : text.toList[p]? = some '/')
    (hline : text.toList[p + 1]? ≠ some '/')
    (hblock : text.toList[p + 1]? ≠ some '*') :
    ((∀ q, ¬ Closes text p '/' q) ∧ f = ⟨.punct, ⟨p, (p + 1 : Nat)⟩, "/"⟩)
      ∨ ∃ q, IsLeast {r | Closes text p '/' r} q ∧ f.kind = .regexLiteral
        ∧ f.span = ⟨p, (q + 1 + flagsAt text (q + 1) : Nat)⟩ := by
  have hfirst := eq_first_of_mem_scan hf hp hslash
  have hlength := Lexeme.length_chars_first '/' (text.toList.drop (p + 1))
  rw [← List.head?_drop] at hline hblock
  have hopening := Lexeme.opening_slash_of_not_comment hline hblock
  rw [regexExtent?_eq] at hopening
  cases hclosing : closing? '/' (text.toList.drop (p + 1)) with
  | none =>
    rw [hclosing] at hopening
    refine Or.inl ⟨not_closes (by decide) hclosing, ?_⟩
    rw [hfirst, Lexeme.first, hopening]
    rfl
  | some j =>
    have hrest : (text.toList.drop (p + 1)).drop (j + 1)
        = text.toList.drop (p + 1 + j + 1) := by
      rw [List.drop_drop, Nat.add_assoc (p + 1)]
    rw [hclosing, Option.map_some, hrest, flagExtent_drop] at hopening
    rw [hopening] at hlength
    refine Or.inr ⟨_, isLeast_closes (by decide) (by decide) hclosing, ?_, ?_⟩
    · rw [hfirst]
      exact congrArg Prod.fst hopening
    · rw [hfirst]
      simp only [Lexeme.placed, hlength, Option.map_some, Option.getD_some]
      congr 2
      omega

/-- Of the slashes in the expression one is taken along by a backslash, and
the other closes it behind two. -/
theorem slash_starts_regex_or_stands_alone_flags :
    let text := "x=/a\\/b\\\\/gim y"
    let f : Fragment := ⟨.regexLiteral, ⟨2, 13⟩, "/a\\/b\\\\/gim"⟩
    f ∈ scan text ∧ f.span.start = 2 ∧ text.toList[2]? = some '/'
      ∧ text.toList[3]? ≠ some '/' ∧ text.toList[3]? ≠ some '*'
      ∧ ∃ q, IsLeast {r | Closes text 2 '/' r} q
        ∧ f.span = ⟨2, (q + 1 + flagsAt text (q + 1) : Nat)⟩ := by
  intro text f
  have hf : f ∈ scan text := by decide +kernel
  have hstart : f.span.start = 2 := rfl
  have hslash : text.toList[2]? = some '/' := by decide
  have hline : text.toList[3]? ≠ some '/' := by decide
  have hblock : text.toList[3]? ≠ some '*' := by decide
  rcases slash_starts_regex_or_stands_alone hf hstart hslash hline hblock with
    ⟨-, halone⟩ | ⟨q, hleast, -, hspan⟩
  · cases congrArg Fragment.kind halone
  · exact ⟨hf, hstart, hslash, hline, hblock, q, hleast, hspan⟩

end LogQuery
