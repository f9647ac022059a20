/-
White space on a line, and other white space in its place.

What ends before white space ends there whatever white space it is, and
whatever follows. That is a law of every extent, though for two reasons:
numbers, words and punctuation end at any white space, while strings and
comments take all of it along until they have their end. A regular expression
keeps the law if it has its closing slash.

Whether a mark closes anything is told across a whole line, and so across all
the white space there. But it is told by what stands in front of the mark: no
line feed, and backslashes that pair up right before it. White space has no
say in either, although a backslash takes the first character of a run along.
-/
import LogQuery.Proofs.Fragment.Closing

namespace LogQuery.Fragment

open Text

variable {g h c d : Char} {w ws xs ys : List Char}

-- ===================================================== texts spaced anew

/-- Some white space of a line. -/
structure GapRun (w : List Char) : Prop where
  nonempty : w ≠ []
  gaps : ∀ c ∈ w, isGap c = true

/-- The texts are the same, but for runs of white space that stand in each
other's place. -/
inductive Respaced : List Char → List Char → Prop where
  | nil : Respaced [] []
  | same (c : Char) {xs ys : List Char} (hrest : Respaced xs ys) :
      Respaced (c :: xs) (c :: ys)
  | gaps {w w' xs ys : List Char} (hw : GapRun w) (hw' : GapRun w')
      (hrest : Respaced xs ys) : Respaced (w ++ xs) (w' ++ ys)

theorem isGap_iff : isGap c = true ↔ isBlank c = true ∧ c ≠ '\n' := by
  rw [isGap, Bool.and_eq_true, decide_eq_true_eq]

theorem GapRun.exists_cons (hw : GapRun w) :
    ∃ g rest, w = g :: rest ∧ isGap g = true := by
  obtain ⟨g, rest, rfl⟩ := List.exists_cons_of_ne_nil hw.nonempty
  exact ⟨g, rest, rfl, hw.gaps g List.mem_cons_self⟩

namespace Respaced

theorem symm (hr : Respaced xs ys) : Respaced ys xs := by
  induction hr with
  | nil => exact .nil
  | same c _ ih => exact .same c ih
  | gaps hw hw' _ ih => exact .gaps hw' hw ih

theorem append_left (xs : List Char) {ys zs : List Char}
    (hr : Respaced ys zs) : Respaced (xs ++ ys) (xs ++ zs) := by
  induction xs with
  | nil => exact hr
  | cons c xs ih => exact .same c ih

/-- Up to the first run that differs the texts are the same. -/
theorem eq_or_gap (hr : Respaced xs ys) :
    xs = ys ∨ ∃ p g h xs' ys', isGap g = true ∧ isGap h = true
      ∧ xs = p ++ g :: xs' ∧ ys = p ++ h :: ys' := by
  induction hr with
  | nil => exact Or.inl rfl
  | same c _ ih =>
    rcases ih with rfl | ⟨p, g, h, xs', ys', hg, hh, rfl, rfl⟩
    · exact Or.inl rfl
    · exact Or.inr ⟨c :: p, g, h, xs', ys', hg, hh, rfl, rfl⟩
  | gaps hw hw' _ _ =>
    obtain ⟨g, rest, rfl, hg⟩ := hw.exists_cons
    obtain ⟨h, rest', rfl, hh⟩ := hw'.exists_cons
    exact Or.inr ⟨[], g, h, _, _, hg, hh, rfl, rfl⟩

/-- A first character that is no white space of the line stays. -/
theorem head?_eq (hr : Respaced xs ys) (hc : isGap c = false)
    (hhead : xs.head? = some c) : ys.head? = some c := by
  rcases hr.eq_or_gap with rfl | ⟨p, g, h, xs', ys', hg, -, rfl, rfl⟩
  · exact hhead
  · cases p with
    | nil =>
      obtain rfl : g = c := Option.some.inj hhead
      rw [hg] at hc
      cases hc
    | cons d p => exact hhead

/-- Where no white space starts, none starts in a text spaced anew. -/
theorem gapExtent_eq_zero (hr : Respaced xs ys) (hxs : gapExtent xs = 0) :
    gapExtent ys = 0 := by
  rcases hr.eq_or_gap with rfl | ⟨p, g, h, xs', ys', hg, -, rfl, rfl⟩
  · exact hxs
  · cases p with
    | nil => simp [gapExtent, hg] at hxs
    | cons d p =>
      by_cases hd : isGap d = true
      · simp [gapExtent, hd] at hxs
      · simp [gapExtent, hd]

end Respaced

-- ============================================== what ends before white space

/-- What ends before white space of a line ends there whatever white space it
is, and whatever follows. -/
def EndsAlike (E : List Char → Nat) : Prop :=
  ∀ (xs : List Char) {g h : Char} (ys zs : List Char), isGap g = true →
    isGap h = true → E (xs ++ g :: ys) ≤ xs.length →
    E (xs ++ h :: zs) = E (xs ++ g :: ys)

/-- What ends at any white space ends alike at all of it. -/
theorem endsAlike_of_endsAt {E : List Char → Nat}
    (hE : ∀ g, isBlank g = true → EndsAt g E) : EndsAlike E := by
  intro xs g h ys zs hg hh _
  rw [hE g (isGap_iff.1 hg).1, hE h (isGap_iff.1 hh).1]

/-- A run of a class that holds all white space of a line or none. -/
theorem endsAlike_run {p : Char → Bool}
    (hp : ∀ g h, isGap g = true → isGap h = true → p g = p h) :
    EndsAlike fun cs => (cs.takeWhile p).length := by
  intro xs g h ys zs hg hh hfits
  simp only [List.takeWhile_append] at hfits ⊢
  by_cases hall : (xs.takeWhile p).length = xs.length
  · have hstop : ¬ p g = true := by
      intro hpg
      rw [if_pos hall, List.takeWhile_cons_of_pos hpg, List.length_append,
        List.length_cons] at hfits
      omega
    rw [if_pos hall, if_pos hall, List.takeWhile_cons_of_neg hstop,
      List.takeWhile_cons_of_neg (hp g h hg hh ▸ hstop)]
  · rw [if_neg hall, if_neg hall]

theorem endsAlike_gapExtent : EndsAlike gapExtent :=
  endsAlike_run fun _ _ hg hh => by rw [hg, hh]

theorem endsAlike_lineExtent : EndsAlike lineExtent :=
  endsAlike_run fun _ _ hg hh => by
    simp [(isGap_iff.1 hg).2, (isGap_iff.1 hh).2]

/-- What ends with the line does not see what is behind it. -/
theorem WithinLine.append_of_mem {E : List Char → Nat} (hE : WithinLine E)
    (hfeed : '\n' ∈ xs) (ys zs : List Char) : E (xs ++ ys) = E (xs ++ zs) := by
  obtain ⟨before, after, rfl⟩ := List.append_of_mem hfeed
  rw [List.append_assoc, List.append_assoc, List.cons_append,
    List.cons_append, hE.lineFeed, hE.lineFeed]

/-- A mark that the search finds is found whatever follows it. -/
theorem closing?_append {mark : Char} {j : Nat} (hfeed : mark ≠ '\n')
    (hback : mark ≠ '\\') (hfind : closing? mark (xs ++ ys) = some j)
    (hj : j < xs.length) (zs : List Char) :
    closing? mark (xs ++ zs) = some j := by
  fun_induction closing? mark xs generalizing j with
  | case1 => simp at hj
  | case2 cs => cases hfind
  | case3 cs => cases hfind
  | case4 d cs hd ih =>
    simp only [List.cons_append, closing?, if_neg hd] at hfind ⊢
    obtain ⟨k, hk, rfl⟩ := Option.map_eq_some_iff.1 hfind
    rw [List.length_cons, List.length_cons] at hj
    rw [ih hk (by omega), Option.map_some]
  | case5 cs _ _ =>
    have hnow : ∀ us, closing? mark (mark :: us) = some 0 := by
      intro us
      rw [closing?.eq_4 mark mark us hfeed fun _ _ hb _ => hback hb, if_pos rfl]
    rw [List.cons_append, hnow] at hfind ⊢
    exact hfind
  | case6 c cs hc hescape hmark ih =>
    cases cs with
    | nil =>
      -- a backslash at the end may take a mark along, but does not close
      obtain rfl : j = 0 := Nat.lt_one_iff.1 hj
      have hclosing := isClosing_of_closing? hfeed hfind
      exact (not_isClosing_zero hmark _ hclosing).elim
    | cons d cs =>
      have halone : ∀ us e rest, c = '\\' → d :: cs ++ us = e :: rest →
          False := fun _ _ _ hb _ => hescape d cs hb rfl
      rw [List.cons_append, closing?_cons hc (halone ys) hmark] at hfind
      obtain ⟨k, hk, rfl⟩ := Option.map_eq_some_iff.1 hfind
      rw [List.length_cons] at hj
      rw [List.cons_append, closing?_cons hc (halone zs) hmark,
        ih hk (by omega), Option.map_some]

/-- A string that ends before white space has its closing mark, which is found
whatever follows. -/
theorem endsAlike_stringExtent : EndsAlike stringExtent := by
  intro xs g h ys zs hg hh hfits
  by_cases hfeed : '\n' ∈ xs
  · exact withinLine_stringExtent.append_of_mem hfeed _ _
  rw [stringExtent_eq] at hfits
  cases hfind : closing? '"' (xs ++ g :: ys) with
  | none =>
    -- an open string takes the white space along
    rw [hfind, Option.elim_none] at hfits
    have hlong : xs.length < (xs ++ g :: ys).findIdx (· = '\n') := by
      rw [List.findIdx_append, if_neg (by simpa using hfeed), List.findIdx_cons]
      simp [(isGap_iff.1 hg).2]
    omega
  | some j =>
    rw [hfind, Option.elim_some] at hfits
    have hfind' := closing?_append (by decide) (by decide) hfind
      (Nat.lt_of_succ_le hfits) (h :: zs)
    rw [stringExtent_eq, stringExtent_eq, hfind, hfind', Option.elim_some,
      Option.elim_some]

/-- So is the end of a block comment. -/
theorem endsAlike_blockExtent : EndsAlike blockExtent := by
  intro xs g h ys zs _ _ hfits
  have hcut := local_blockExtent.cut xs (g :: ys) hfits
  have hclosed : ['*', '/'] <:+ xs.take (blockExtent xs) := by
    rcases blockExtent_closed_or_all (xs ++ g :: ys) with hclosed | hall
    · rwa [← hcut, List.take_append_of_le_length
        (local_blockExtent.le_length xs)] at hclosed
    · rw [hall, List.length_append, List.length_cons] at hfits
      omega
  rw [blockExtent_append_of_closed _ hclosed, hcut]

/-- A regular expression that ends before white space. -/
theorem regexExtent?_gap {n : Nat} {zs : List Char} (hg : isGap g = true)
    (hh : isGap h = true) (hregex : regexExtent? (xs ++ g :: ys) = some n)
    (hfits : n ≤ xs.length) : regexExtent? (xs ++ h :: zs) = some n := by
  rw [regexExtent?_eq] at hregex ⊢
  obtain ⟨j, hfind, rfl⟩ := Option.map_eq_some_iff.1 hregex
  have hj : j + 1 ≤ xs.length := by omega
  have hfind' := closing?_append (by decide) (by decide) hfind hj (h :: zs)
  rw [hfind', Option.map_some, List.drop_append_of_le_length hj,
    List.drop_append_of_le_length hj, endsAt_flagExtent (isGap_iff.1 hg).1,
    endsAt_flagExtent (isGap_iff.1 hh).1]

-- ============================================================ closing marks

/-- A mark closes by what stands in front of it. -/
theorem isClosing_length_iff {mark : Char} (hmark : mark ≠ '\n')
    (xs ys : List Char) :
    IsClosing mark (xs ++ mark :: ys) xs.length
      ↔ '\n' ∉ xs ∧ Even (backslashRun xs) := by
  have hline : xs.length < (xs ++ mark :: ys).findIdx (· = '\n')
      ↔ '\n' ∉ xs := by
    rw [List.findIdx_append, List.findIdx_cons]
    -- a line feed counts if it stands in front of the mark
    by_cases hfeed : '\n' ∈ xs
    · have hlt : xs.findIdx (· = '\n') < xs.length :=
        List.findIdx_lt_length_of_exists ⟨'\n', hfeed, by simp⟩
      simp [hlt, hfeed]
    · have hnot : ¬ xs.findIdx (· = '\n') < xs.length := by
        simpa using hfeed
      simp [hnot, hfeed, hmark]
  constructor
  · intro hc
    have hpaired := hc.paired
    rw [List.take_left] at hpaired
    exact ⟨hline.1 hc.onLine, hpaired⟩
  · rintro ⟨hfeed, hpaired⟩
    refine ⟨hline.2 hfeed, ?_, ?_⟩
    · simp
    · rw [List.take_left]
      exact hpaired

/-- A closing mark stands between two parts of the text. -/
theorem IsClosing.exists_split {mark : Char} {cs : List Char} {j : Nat}
    (hc : IsClosing mark cs j) :
    ∃ xs ys, cs = xs ++ mark :: ys ∧ j = xs.length := by
  obtain ⟨hlt, heq⟩ := List.getElem?_eq_some_iff.1 hc.marked
  refine ⟨cs.take j, cs.drop (j + 1), ?_, ?_⟩
  · rw [← heq, ← List.drop_eq_getElem_cons hlt, List.take_append_drop]
  · rw [List.length_take, Nat.min_eq_left (Nat.le_of_lt hlt)]

/-- White space in front of a run of backslashes does not lengthen it. -/
theorem backslashRun_append (hw : ∀ c ∈ w, isGap c = true) (xs : List Char) :
    backslashRun (w ++ xs) = backslashRun xs := by
  induction w with
  | nil => rfl
  | cons g w ih =>
    have hback : g ≠ '\\' := by
      rintro rfl
      exact absurd (hw _ List.mem_cons_self) (by decide)
    rw [List.cons_append, backslashRun_cons_of_ne hback,
      ih fun d hd => hw d (List.mem_cons_of_mem g hd)]

namespace Respaced

/-- A text that is spaced anew keeps its line feeds. -/
theorem lineFeed_mem (hr : Respaced xs ys) (hfeed : '\n' ∈ xs) :
    '\n' ∈ ys := by
  induction hr with
  | nil => exact hfeed
  | same c _ ih =>
    rcases List.mem_cons.1 hfeed with rfl | hfeed
    · exact List.mem_cons_self
    · exact List.mem_cons_of_mem c (ih hfeed)
  | gaps hw _ _ ih =>
    rcases List.mem_append.1 hfeed with hgap | hfeed
    · exact absurd (hw.gaps _ hgap) (by decide)
    · exact List.mem_append_right _ (ih hfeed)

/-- The same number of backslashes stands at the end, and if that is all of
one text it is all of the other. -/
theorem backslashRun_eq (hr : Respaced xs ys) :
    backslashRun xs = backslashRun ys
      ∧ (backslashRun xs = xs.length ↔ backslashRun ys = ys.length) := by
  induction hr with
  | nil => exact ⟨rfl, Iff.rfl⟩
  | @same c xs ys _ ih =>
    obtain ⟨hrun, hall⟩ := ih
    have hle := backslashRun_le_length xs
    have hle' := backslashRun_le_length ys
    rw [backslashRun_cons, backslashRun_cons, List.length_cons,
      List.length_cons]
    by_cases hgrows : c = '\\' ∧ backslashRun xs = xs.length
    · rw [if_pos hgrows, if_pos ⟨hgrows.1, hall.1 hgrows.2⟩]
      omega
    · rw [if_neg hgrows, if_neg fun h => hgrows ⟨h.1, hall.2 h.2⟩]
      omega
  | @gaps w w' xs ys hw hw' _ ih =>
    have hle := backslashRun_le_length xs
    have hle' := backslashRun_le_length ys
    have hpos := List.length_pos_iff.2 hw.nonempty
    have hpos' := List.length_pos_iff.2 hw'.nonempty
    rw [backslashRun_append hw.gaps, backslashRun_append hw'.gaps,
      List.length_append, List.length_append]
    -- white space parts the backslashes from what is before it
    exact ⟨ih.1, by omega⟩

/-- A character that is no white space of the line stands between texts that
are spaced anew by themselves. -/
theorem exists_split {us : List Char} (hr : Respaced us ws)
    (hc : isGap c = false) (hsplit : us = xs ++ c :: ys) :
    ∃ xs' ys', ws = xs' ++ c :: ys' ∧ Respaced xs xs' := by
  induction hr generalizing xs with
  | nil => simp at hsplit
  | same d hrest ih =>
    cases xs with
    | nil =>
      obtain ⟨rfl, rfl⟩ := List.cons.inj hsplit
      exact ⟨[], _, rfl, .nil⟩
    | cons e xs =>
      obtain ⟨rfl, htail⟩ := List.cons.inj hsplit
      obtain ⟨xs', ys', rfl, hxs⟩ := ih htail
      exact ⟨d :: xs', ys', rfl, .same d hxs⟩
  | @gaps w w' us ws hw hw' _ ih =>
    -- the character stands behind the run, not in it
    obtain ⟨xs, rfl, htail⟩ : ∃ as, xs = w ++ as ∧ us = as ++ c :: ys := by
      rcases List.append_eq_append_iff.1 hsplit with hbehind | ⟨bs, rfl, hbs⟩
      · exact hbehind
      · cases bs with
        | nil => exact ⟨[], by simp, hbs.symm⟩
        | cons b bs =>
          obtain rfl : c = b := (List.cons.inj hbs).1
          have hgap := hw.gaps c (List.mem_append_right _ List.mem_cons_self)
          rw [hc] at hgap
          cases hgap
    obtain ⟨xs', ys', rfl, hxs⟩ := ih htail
    exact ⟨w' ++ xs', ys', (List.append_assoc ..).symm, .gaps hw hw' hxs⟩

/-- Where no mark closes, none does however the text is spaced. -/
theorem closing?_eq_none {mark : Char} (hr : Respaced xs ys)
    (hgap : isGap mark = false) (hfeed : mark ≠ '\n') (hback : mark ≠ '\\')
    (hnone : closing? mark xs = none) : closing? mark ys = none := by
  cases hfind : closing? mark ys with
  | none => rfl
  | some j =>
    have hclosing := isClosing_of_closing? hfeed hfind
    obtain ⟨before, after, rfl, rfl⟩ := hclosing.exists_split
    obtain ⟨hline, hpaired⟩ := (isClosing_length_iff hfeed _ _).1 hclosing
    obtain ⟨before', after', rfl, hbefore⟩ := hr.symm.exists_split hgap rfl
    have hclosing' :
        IsClosing mark (before' ++ mark :: after') before'.length := by
      refine (isClosing_length_iff hfeed _ _).2 ⟨fun hmem => ?_, ?_⟩
      · exact hline (hbefore.symm.lineFeed_mem hmem)
      · rw [← hbefore.backslashRun_eq.1]
        exact hpaired
    obtain ⟨i, hi, -⟩ := exists_closing?_le hback hclosing'
    rw [hnone] at hi
    cases hi

end Respaced

end LogQuery.Fragment
