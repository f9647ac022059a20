/-
Plain texts read back.

A plain text is written word by word. The reader takes a word up to the
spaces or the line end behind it, and goes on after them as long as no
comment starts and the next line is indented. The style of a text makes sure
of both, and of colons that end no word, so that what is written stands for
the text again (`plainFrom_writeRuns`).
-/
import LogQuery.Proofs.Yaml.Cursor
import LogQuery.Proofs.Yaml.WriteQuoted

namespace LogQuery.Yaml.Writer

-- =================================================================== words

/-- Characters of a word. -/
def IsWord (w : List Char) : Prop :=
  ∀ c ∈ w, isVisible c = true ∧ isEdge c = false

/-- A word and a text behind it hold no markup from the word's end on. -/
theorem holdsMarkup_append_right {before : Char} {xs ys : List Char}
    (h : holdsMarkup before (xs ++ ys) = false) :
    holdsMarkup ((xs.getLast?).getD before) ys = false := by
  induction xs generalizing before with
  | nil => exact h
  | cons x xs ih =>
    rw [List.cons_append, holdsMarkup, Bool.or_eq_false_iff] at h
    have hmore := ih h.2
    rw [List.getLast?_cons, Option.getD_some]
    exact hmore

/-- Whether something separates words is seen at its first character. -/
theorem separated_append_congr {w ys zs : List Char}
    (h : separated ys = separated zs) :
    separated (w ++ ys) = separated (w ++ zs) := by
  cases w with
  | nil => exact h
  | cons c w => rfl

/-- A word is taken as a whole: no colon in it is followed by white space,
wherever its line is broken. -/
theorem plainExtent_word {before : Char} {w rest text : List Char}
    (hw : IsWord w) (hrest : separated rest = true)
    (htext : separated text = true)
    (hmarkup : holdsMarkup before (w ++ text) = false) :
    plainExtent false (w ++ rest) = w.length := by
  induction w generalizing before with
  | nil =>
    cases rest with
    | nil => rfl
    | cons c cs => rw [List.nil_append, plainExtent, if_pos hrest]; rfl
  | cons c w ih =>
    rw [List.cons_append, holdsMarkup, Bool.or_eq_false_iff,
      Bool.or_eq_false_iff] at hmarkup
    obtain ⟨hvisible, hedge⟩ := hw c List.mem_cons_self
    have hcolon : (c = ':' && separated (w ++ rest)) = false := by
      rw [separated_append_congr (hrest.trans htext.symm)]
      exact hmarkup.1.1
    rw [List.cons_append, plainExtent,
      if_neg (by simp [separated_of_visible hvisible hedge]),
      if_neg (by simpa using hcolon), if_neg (by simp),
      ih (fun d hd => hw d (List.mem_cons_of_mem c hd)) hmarkup.2]
    rfl

-- ==================================================================== gaps

/-- Spaces end where something is that separates nothing. -/
theorem takeWhile_spaces (n : Nat) {rest : List Char}
    (h : separated rest = false) :
    (List.replicate n ' ' ++ rest).takeWhile (· = ' ')
      = List.replicate n ' ' := by
  have hspaces : ∀ c ∈ List.replicate n ' ', decide (c = ' ') = true := by
    intro c hc
    exact decide_eq_true (List.eq_of_mem_replicate hc)
  have hrest : rest.takeWhile (· = ' ') = [] := by
    cases rest with
    | nil => rfl
    | cons c cs =>
      have hspace := (separated_cons_eq_false.1 h).1
      exact List.takeWhile_cons_of_neg (by simp [hspace])
  rw [List.takeWhile_append_of_pos hspaces, hrest, List.append_nil]

/-- Spaces between two words of a line. -/
theorem plainGap_spaces (n : Nat) {rest : List Char}
    (h : separated rest = false) :
    plainGap (List.replicate n ' ' ++ rest)
      = (List.replicate n ' ', rest, false) := by
  unfold plainGap
  rw [takeWhile_spaces n h]
  dsimp only
  rw [List.drop_left, lineBreak_of_separated h]

/-- No line ends stand before something that separates nothing. -/
theorem plainBreaks_of_separated {rest : List Char}
    (h : separated rest = false) :
    plainBreaks rest = ([], rest, false) := by
  cases rest with
  | nil => rfl
  | cons c cs =>
    obtain ⟨hspace, -, hbreak⟩ := separated_cons_eq_false.1 h
    have hreturn : c ≠ '\r' := by
      rintro rfl
      cases hbreak
    rw [plainBreaks.eq_3 c cs fun _ hc _ => hreturn hc, if_neg hspace,
      if_neg (by simp [hbreak])]

/-- A line end behind which nothing is indented, or what goes on. -/
theorem plainGap_lineFeed (indent : List Char) {rest : List Char}
    (hindent : atDocumentMark (indent ++ rest) = false)
    (h : plainBreaks (indent ++ rest) = ([], rest, false)) :
    plainGap ('\n' :: (indent ++ rest)) = ([' '], rest, true) := by
  have hfirst : lineBreak? ('\n' :: (indent ++ rest)) = some ('\n', 1) := rfl
  have hspaces : ('\n' :: (indent ++ rest)).takeWhile (· = ' ') = [] := rfl
  unfold plainGap
  dsimp only
  rw [hspaces, List.length_nil, List.drop_zero, hfirst]
  dsimp only
  rw [List.drop_succ_cons, List.drop_zero, if_neg (by simp [hindent]), h]
  rfl

/-- A line end between two words. -/
theorem plainGap_continued {rest : List Char} (h : separated rest = false) :
    plainGap (continued ++ rest) = ([' '], rest, true) := by
  refine plainGap_lineFeed [' ', ' '] rfl ?_
  exact plainBreaks_of_separated h

/-- What can follow a plain text and its line end: nothing, or the next item
of the list. -/
def EndsItem (rest : List Char) : Prop :=
  rest = [] ∨ ∃ more, rest = '-' :: ' ' :: more

/-- The line end behind a plain text. -/
theorem plainGap_end {rest : List Char} (h : EndsItem rest) :
    plainGap ('\n' :: rest) = ([' '], rest, true) := by
  rcases h with rfl | ⟨more, rfl⟩
  · rfl
  · refine plainGap_lineFeed [] ?_ ?_
    · simp [atDocumentMark]
    · exact plainBreaks_of_separated rfl

-- =================================================================== texts

/-- A text that can stand without marks behind the character `before`: it
starts and ends with a word, stays on one line and holds no markup. -/
structure IsPlain (before : Char) (cs : List Char) : Prop where
  visible : ∀ c ∈ cs, isVisible c = true
  lineFeed : '\n' ∉ cs
  first : ∃ c ∈ cs.head?, isEdge c = false
  last : cs.getLast?.any isEdge = false
  markup : holdsMarkup before cs = false

/-- Behind a word stands a space, unless a line ends there. -/
theorem eq_space_of_behind_word {c d : Char} (hc : isEdge c = false)
    (hdiffers : sameRun c d = false) (hd : d ≠ '\n') : d = ' ' := by
  by_contra hspace
  have hedge : c ≠ ' ' ∧ c ≠ '\n' := by simpa [isEdge] using hc
  have hsame : sameRun c d = true := by simp [sameRun_iff, hedge, hd, hspace]
  rw [hsame] at hdiffers
  cases hdiffers

/-- The last of some spaces is a space. -/
theorem getLast_spaces (xs : List Char) {v : List Char}
    (hv : ∀ d ∈ v, sameRun ' ' d = true) :
    (xs ++ ' ' :: v).getLast? = some ' ' := by
  rw [eq_replicate_of_sameRun rfl hv, ← List.replicate_succ,
    List.replicate_succ', ← List.append_assoc, List.getLast?_concat]

/-- A text without marks is plain wherever it stands, and shows no other
kind. -/
theorem isPlain_of_style {c : Char} {cs : List Char}
    (h : style (c :: cs) = .plain) (before : Char) :
    IsPlain before (c :: cs) ∧ Kind.ofChars (c :: cs) = .text
      ∧ startsMarkup c cs = false := by
  have hvisible := (visible_of_style (by rw [h]; decide)).1
  unfold style at h
  split at h
  · cases h
  · dsimp only at h
    split at h
    · cases h
    · next hnone =>
      -- the text is not empty and would be written without marks
      simp only [Bool.or_eq_true, not_or, Bool.not_eq_true,
        decide_eq_true_eq, not_not, ne_eq] at hnone
      obtain ⟨⟨⟨⟨⟨hkind, hstart⟩, hmarkup⟩, hbreak⟩, hfirst⟩, hlast⟩ := hnone
      refine ⟨⟨hvisible, ?_, ⟨c, rfl, hfirst⟩, ?_, ?_⟩, hkind, hstart⟩
      · rw [← List.contains_iff_mem, hbreak]
        decide
      · exact hlast
      · have hcomment : c ≠ '#' := by
          rintro rfl
          simp [startsMarkup] at hstart
        have hcolon : c = ':' → separated cs = false := by
          rintro rfl
          rw [← Bool.not_eq_true]
          intro hsep
          simp [startsMarkup, hsep] at hstart
        simp [holdsMarkup, hcomment, hmarkup]
        exact hcolon

/-- What stands behind spaces in a plain text is a plain text again, and no
comment. -/
theorem IsPlain.behind_spaces {before : Char} {u v text : List Char}
    (h : IsPlain before ((u ++ ' ' :: v) ++ text))
    (hspaces : StartsRun ' ' v text) :
    IsPlain ' ' text ∧ text.head? ≠ some '#' := by
  have hlast := getLast_spaces u hspaces.same
  have hmarkup := holdsMarkup_append_right h.markup
  rw [hlast, Option.getD_some] at hmarkup
  have hend := h.last
  cases text with
  | nil =>
    -- a plain text does not end with a space
    rw [List.append_nil, hlast] at hend
    cases hend
  | cons x xs =>
    have hsub : ∀ y ∈ x :: xs, y ∈ (u ++ ' ' :: v) ++ x :: xs :=
      fun y hy => List.mem_append_right _ hy
    have hx : isEdge x = false := by
      have hspace : x ≠ ' ' := by
        rintro rfl
        cases hspaces.ends ' ' rfl
      have hbreak : x ≠ '\n' := by
        rintro rfl
        exact h.lineFeed (hsub _ List.mem_cons_self)
      simp [isEdge, hspace, hbreak]
    rw [List.getLast?_append_cons] at hend
    refine ⟨⟨fun y hy => h.visible y (hsub y hy),
      fun hy => h.lineFeed (hsub _ hy), ⟨x, rfl, hx⟩, hend, hmarkup⟩, ?_⟩
    intro hhead
    cases hhead
    simp [holdsMarkup, separated] at hmarkup

/-- A plain text is a word, or a word, spaces and a plain text behind them
that is no comment. -/
theorem IsPlain.cases {before c : Char} {cs : List Char}
    (h : IsPlain before (c :: cs)) :
    ∃ w rest, cs = w ++ rest ∧ StartsRun c w rest ∧ IsWord (c :: w)
      ∧ (rest = [] ∨ ∃ v text, rest = ' ' :: (v ++ text)
        ∧ StartsRun ' ' v text ∧ IsPlain ' ' text
        ∧ text.head? ≠ some '#') := by
  obtain ⟨w, rest, rfl, hrun⟩ := exists_startsRun c cs
  have hc : isEdge c = false := by simpa using h.first
  refine ⟨w, rest, rfl, hrun, fun d hd => ⟨?_, ?_⟩, ?_⟩
  · exact h.visible d (List.mem_append_left rest hd)
  · rcases List.mem_cons.1 hd with rfl | hd
    · exact hc
    · rw [isEdge_of_sameRun (hrun.same d hd), hc]
  cases rest with
  | nil => exact .inl rfl
  | cons d ds =>
    -- the text has one line, so the word ends before a space
    have hd : d ≠ '\n' := by
      rintro rfl
      exact h.lineFeed (by simp)
    obtain rfl := eq_space_of_behind_word hc (hrun.ends d rfl) hd
    obtain ⟨v, text, rfl, hspaces⟩ := exists_startsRun ' ' ds
    have hsplit : c :: (w ++ ' ' :: (v ++ text))
        = (c :: w ++ ' ' :: v) ++ text := by simp
    rw [hsplit] at h
    exact .inr ⟨v, text, rfl, hspaces, h.behind_spaces hspaces⟩

/-- The column counts visible characters that end no line. -/
theorem countsColumn_of_visible {c : Char} (hvisible : isVisible c = true)
    (hbreak : c ≠ '\n') : CountsColumn c := by
  constructor
  · by_cases hspace : c = ' '
    · subst hspace; rfl
    · have hsep := separated_of_visible hvisible (by
        simp [isEdge, hspace, hbreak]) []
      exact (separated_cons_eq_false.1 hsep).2.2
  · rintro rfl
    exact absurd hvisible (by decide)

/-- The column counts the characters of a word. -/
theorem IsWord.countsColumn {w : List Char} (hw : IsWord w) :
    ∀ c ∈ w, CountsColumn c := by
  intro c hc
  refine countsColumn_of_visible (hw c hc).1 ?_
  rintro rfl
  cases (hw _ hc).2

/-- A word with the gap behind it: the text ends there, or goes on. -/
theorem plainFrom_word {w after next rest gap : List Char} {k k' : Cursor}
    {start fuel : Nat} {indent : Int} {ended ended' : Bool}
    (hk : k.At (w ++ after) start)
    (hw : IsWord w) (hne : w ≠ [])
    (hextent : plainExtent false (w ++ after) = w.length)
    (hgap : plainGap after = (next, rest, ended'))
    (hk' : (k.advance w.length).upTo rest = k') :
    plainFrom false indent (fuel + 1) gap ended k
      = if next.isEmpty || k'.rest.head? = some '#'
            || (k'.column : Int) < indent then (gap ++ w, k', ended')
        else
          let found := plainFrom false indent fuel next ended' k'
          (gap ++ w ++ found.1, found.2) := by
  have hafter := (hk.along hw.countsColumn).rest
  rw [plainFrom, hk.rest, hextent]
  dsimp only
  rw [if_neg (by simpa using hne), hafter, hgap]
  dsimp only
  rw [hk', List.take_left]
  simp

/-- What is written for spaces separates words. -/
theorem separated_gap {text v y : List Char}
    (hy : WrittenRun false text (' ' :: v) y) (more : List Char) :
    separated (y ++ more) = true := by
  rcases hy.of_spaces with rfl | ⟨-, rfl⟩ <;> rfl

/-- What is written for spaces is read as these spaces. -/
theorem exists_plainGap {text v y more : List Char}
    (hy : WrittenRun false text (' ' :: v) y)
    (hv : ∀ d ∈ v, sameRun ' ' d = true) (hmore : separated more = false) :
    ∃ ended, plainGap (y ++ more) = (' ' :: v, more, ended) := by
  rcases hy.of_spaces with rfl | ⟨rfl, rfl⟩
  · refine ⟨false, ?_⟩
    rw [eq_replicate_of_sameRun rfl hv]
    exact plainGap_spaces (v.length + 1) hmore
  · exact ⟨true, plainGap_continued hmore⟩

/-- Behind what is written for spaces a line does not start. -/
theorem exists_upTo_gap {text v y more : List Char} {k : Cursor}
    {column : Nat} (hy : WrittenRun false text (' ' :: v) y)
    (hv : ∀ d ∈ v, sameRun ' ' d = true) (hk : k.At (y ++ more) column) :
    ∃ k' next, k.upTo more = k' ∧ k'.At more (next + 1) := by
  have hspace : CountsColumn ' ' := ⟨rfl, by decide⟩
  rw [Cursor.upTo_eq_advance hk.rest]
  -- the spaces as they are, or a line break and the indentation
  rcases hy.of_spaces with rfl | ⟨rfl, rfl⟩
  · have hcounts : ∀ c ∈ ' ' :: v, CountsColumn c := by
      rw [eq_replicate_of_sameRun rfl hv, ← List.replicate_succ]
      intro c hc
      rw [List.eq_of_mem_replicate hc]
      exact hspace
    exact ⟨_, column + v.length, rfl, hk.along hcounts⟩
  · have hcounts : ∀ c ∈ [' ', ' '], CountsColumn c := by simp [hspace]
    refine ⟨_, 1, rfl, ?_⟩
    show (k.advance (1 + 2)).At more 2
    rw [Cursor.advance_add]
    exact hk.lineFeed.along hcounts

/-- The last word of a plain text. -/
theorem exists_plainFrom_last {w rest : List Char} {k : Cursor} {start : Nat}
    (hrest : EndsItem rest) (hw : IsWord w) (hne : w ≠ [])
    (hextent : plainExtent false (w ++ '\n' :: rest) = w.length)
    (hk : k.At (w ++ '\n' :: rest) start) (fuel : Nat) (gap : List Char)
    (ended : Bool) :
    ∃ k', plainFrom false 1 (fuel + 1) gap ended k = (gap ++ w, k', true)
      ∧ k'.At rest 0 := by
  have hline : (k.advance w.length).At ('\n' :: rest) (start + w.length) :=
    hk.along hw.countsColumn
  have hsplit : (k.advance w.length).rest = ['\n'] ++ rest := hline.rest
  have hend : ((k.advance w.length).upTo rest).At rest 0 := by
    rw [Cursor.upTo_eq_advance hsplit]
    exact hline.lineFeed
  refine ⟨_, ?_, hend⟩
  rw [plainFrom_word hk hw hne hextent (plainGap_end hrest) rfl]
  exact if_pos (by simp [hend.column])

/-- **What is written for a plain text stands for the text.** The reader is
behind the gap `gap`, and what follows the text ends its item. -/
theorem plainFrom_writeRuns {rest : List Char} (hrest : EndsItem rest)
    {before : Char} {cs : List Char} (hplain : IsPlain before cs)
    (isFirst ended : Bool) (column fuel start : Nat) (gap : List Char)
    (k : Cursor) (hfuel : cs.length < fuel)
    (hk : k.At (writeRuns false isFirst column (runs cs) ++ '\n' :: rest)
      start) :
    ∃ k', plainFrom false 1 fuel gap ended k = (gap ++ cs, k', true)
      ∧ k'.At rest 0 := by
  cases cs with
  | nil => obtain ⟨c, hc, -⟩ := hplain.first; cases hc
  | cons c cs =>
  obtain ⟨w, behind, rfl, hrun, hword, hcases⟩ := hplain.cases
  cases fuel with
  | zero => exact absurd hfuel (Nat.not_lt_zero _)
  | succ fuel =>
  obtain ⟨x, column', hx, hwrite⟩ :=
    exists_writtenRun false isFirst column hrun
  have hxword : x = c :: w := hx.of_word (hword c List.mem_cons_self).2
  rw [hwrite, hxword, List.append_assoc] at hk
  have hmarkup : holdsMarkup before ((c :: w) ++ behind) = false :=
    hplain.markup
  rcases hcases with rfl | ⟨v, text, rfl, hspaces, htext, hcomment⟩
  · -- the last word of the text
    rw [List.append_nil]
    exact exists_plainFrom_last hrest hword (List.cons_ne_nil c w)
      (plainExtent_word hword rfl rfl hmarkup) hk fuel gap ended
  -- spaces that may be written as a line break, and the text behind
  · obtain ⟨y, column'', hy, hwriteGap⟩ :=
      exists_writtenRun false false column' hspaces
    rw [hwriteGap, List.append_assoc] at hk
    obtain ⟨d, hd, hedge⟩ := htext.first
    obtain ⟨ds, rfl⟩ : ∃ ds, text = d :: ds := List.head?_eq_some_iff.1 hd
    have hstart : ∃ more, writeRuns false false column'' (runs (d :: ds))
        = d :: more := exists_writeRuns_eq_cons false false column'' hedge
    obtain ⟨more, hmore⟩ := hstart
    have hsep : separated (writeRuns false false column'' (runs (d :: ds))
        ++ '\n' :: rest) = false := by
      rw [hmore]
      exact separated_of_visible (htext.visible d List.mem_cons_self) hedge _
    obtain ⟨found, hgap⟩ := exists_plainGap hy hspaces.same hsep
    obtain ⟨k₂, next, hk₂, hplace⟩ := exists_upTo_gap hy hspaces.same
      (hk.along hword.countsColumn)
    obtain ⟨k', hread, hk'⟩ := plainFrom_writeRuns hrest htext false found
      column'' fuel (next + 1) (' ' :: v) k₂ (by simp at hfuel ⊢; omega)
      hplace
    refine ⟨k', ?_, hk'⟩
    rw [plainFrom_word hk hword (List.cons_ne_nil c w)
      (plainExtent_word hword (separated_gap hy _) rfl hmarkup) hgap hk₂,
      if_neg ?_, hread]
    · simp
    · have hhead : d ≠ '#' := by simpa using hcomment
      have hindented : decide ((k₂.column : Int) < 1) = false :=
        decide_eq_false (by rw [hplace.column]; omega)
      rw [hindented, hplace.rest, hmore]
      simp [hhead]
termination_by cs.length

/-- What is written for a plain text starts with its first character, and
white space follows there exactly if it does in the text. -/
theorem exists_writeRuns_plain {before c : Char} {cs : List Char}
    (hplain : IsPlain before (c :: cs)) (isFirst : Bool) (column : Nat)
    (rest : List Char) :
    ∃ more, writeRuns false isFirst column (runs (c :: cs)) = c :: more
      ∧ separated (more ++ '\n' :: rest) = separated cs := by
  obtain ⟨w, behind, rfl, hrun, hword, hcases⟩ := hplain.cases
  obtain ⟨x, column', hx, hwrite⟩ :=
    exists_writtenRun false isFirst column hrun
  have hxword : x = c :: w := hx.of_word (hword c List.mem_cons_self).2
  refine ⟨w ++ writeRuns false false column' (runs behind), ?_, ?_⟩
  · rw [hwrite, hxword]
    rfl
  · rw [List.append_assoc]
    apply separated_append_congr
    rcases hcases with rfl | ⟨v, text, rfl, hspaces, -, -⟩
    · rfl
    · obtain ⟨y, column'', hy, hwriteGap⟩ :=
        exists_writtenRun false false column' hspaces
      rw [hwriteGap, List.append_assoc, separated_gap hy]
      rfl

/-- A plain text is not longer than what is written for it. -/
theorem length_le_writeRuns (cs : List Char) (isFirst : Bool)
    (column : Nat) :
    cs.length ≤ (writeRuns false isFirst column (runs cs)).length := by
  induction cs using runs_induction generalizing isFirst column with
  | nil => exact Nat.zero_le _
  | run c w cs hrun ih =>
    obtain ⟨x, column', hx, hwrite⟩ :=
      exists_writtenRun false isFirst column hrun
    have hpart : (c :: w).length ≤ x.length := by
      generalize c :: w = run at hx
      cases hx with
      | folded => decide
      | breaks n => simp; omega
      | same => exact Nat.le_refl _
    have hmore := ih false column'
    rw [hwrite, List.length_append, ← List.cons_append, List.length_append]
    omega

end LogQuery.Yaml.Writer
