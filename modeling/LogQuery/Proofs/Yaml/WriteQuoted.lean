/-
Texts in quotation marks read back.

Between single marks a text is written run by run, between double ones
character by character. In both a line can be broken where the reader folds
or skips the break, and what is written stands for the text again
(`quoted_writeRuns`, `quoted_writeEscaped`).
-/
import LogQuery.Proofs.Yaml.Quoted
import LogQuery.Proofs.Yaml.Runs

namespace LogQuery.Yaml.Writer

open Text

-- ============================================================== characters

/-- A visible character of a word is neither white space nor a line end. -/
theorem separated_of_visible {c : Char} (hvisible : isVisible c = true)
    (hedge : isEdge c = false) (cs : List Char) :
    separated (c :: cs) = false := by
  rw [← Bool.not_eq_true]
  intro hsep
  have hc : c = ' ' ∨ c = '\t' ∨ c = '\n' ∨ c = '\r' ∨ c = '\u0085'
      ∨ c = '\u2028' ∨ c = '\u2029' := by
    simpa [separated, isBreak, or_assoc] using hsep
  rcases hc with rfl | rfl | rfl | rfl | rfl | rfl | rfl
  · cases hedge
  · exact absurd hvisible (by decide)
  · cases hedge
  all_goals exact absurd hvisible (by decide)

-- ============================================================ single marks

/-- A run as it stands between its marks: single marks are doubled if
`doubled` is set. -/
def withMarks (doubled : Bool) (run : List Char) : List Char :=
  if doubled then run.flatMap fun c => if c = '\'' then ['\'', '\''] else [c]
  else run

/-- What is written for a run before the text `cs`: a line end for a single
space that is not the last, one line end more for line ends, and anything
else as it is. -/
inductive WrittenRun (doubled : Bool) (cs : List Char) :
    List Char → List Char → Prop where
  | folded (h : cs ≠ []) : WrittenRun doubled cs [' '] continued
  | breaks (n : Nat) :
    WrittenRun doubled cs (List.replicate (n + 1) '\n')
      ('\n' :: List.replicate (n + 1) '\n' ++ List.replicate indentWidth ' ')
  | same (run : List Char) (h : '\n' ∉ run) :
    WrittenRun doubled cs run (withMarks doubled run)

/-- The first run is written, and then the others. -/
theorem exists_writtenRun (doubled isFirst : Bool) (column : Nat) {c : Char}
    {w cs : List Char} (hrun : StartsRun c w cs) :
    ∃ x column', WrittenRun doubled cs (c :: w) x
      ∧ writeRuns doubled isFirst column (runs (c :: (w ++ cs)))
        = x ++ writeRuns doubled false column' (runs cs) := by
  rw [runs_cons_append hrun]
  by_cases hspace : c :: w = [' ']
  · obtain ⟨rfl, rfl⟩ := List.cons.inj hspace
    rw [writeRuns]
    split
    · next hbreak =>
      have hmore : cs ≠ [] := by
        rintro rfl
        simp [runs] at hbreak
      -- a line is broken at a single space, but not at the end of the text
      exact ⟨continued, _, .folded hmore, rfl⟩
    · refine ⟨withMarks doubled [' '], column + 1, .same [' '] (by decide), ?_⟩
      cases doubled <;> rfl
  · by_cases hc : c = '\n'
    · subst hc
      have hw := eq_replicate_of_sameRun rfl hrun.same
      refine ⟨_, _, ?_, rfl⟩
      rw [hw, ← List.replicate_succ]
      exact .breaks _
    · have hnone : '\n' ∉ c :: w := by
        intro hmem
        rcases List.mem_cons.1 hmem with h | hmem
        · exact hc h.symm
        · exact hc ((sameRun_iff.1 (hrun.same _ hmem)).2.2 rfl)
      refine ⟨withMarks doubled (c :: w),
        column + (withMarks doubled (c :: w)).length, .same _ hnone, ?_⟩
      rw [writeRuns.eq_4 _ _ _ _ _ (by simpa using hspace)
        (by rintro tail ⟨⟩; exact hc rfl)]
      rfl

/-- A word is written as it is. -/
theorem WrittenRun.of_word {doubled : Bool} {cs w x : List Char} {c : Char}
    (h : WrittenRun doubled cs (c :: w) x) (hc : isEdge c = false) :
    x = withMarks doubled (c :: w) := by
  generalize hword : c :: w = word at h
  cases h with
  | folded => cases hword; cases hc
  | breaks n => cases hword; cases hc
  | same => rfl

/-- Spaces are written as they are, unless one space is a line end. -/
theorem WrittenRun.of_spaces {doubled : Bool} {cs v x : List Char}
    (h : WrittenRun doubled cs (' ' :: v) x) :
    x = withMarks doubled (' ' :: v) ∨ (v = [] ∧ x = continued) := by
  generalize hspaces : ' ' :: v = spaces at h
  cases h with
  | folded => exact .inr ⟨(List.cons.inj hspaces).2, rfl⟩
  | breaks n => cases hspaces
  | same => exact .inl rfl

/-- What is written for a text that starts with a word starts with the same
character. -/
theorem exists_writeRuns_eq_cons (doubled isFirst : Bool) (column : Nat)
    {c : Char} {cs : List Char} (hc : isEdge c = false) :
    ∃ more, writeRuns doubled isFirst column (runs (c :: cs)) = c :: more := by
  obtain ⟨w, rest, rfl, hrun⟩ := exists_startsRun c cs
  obtain ⟨x, column', hx, hwrite⟩ :=
    exists_writtenRun doubled isFirst column hrun
  rw [hwrite, hx.of_word hc]
  cases doubled with
  | false => exact ⟨_, rfl⟩
  | true =>
    by_cases hmark : c = '\''
    · subst hmark; exact ⟨_, rfl⟩
    · refine ⟨w.flatMap (fun c => if c = '\'' then ['\'', '\''] else [c])
        ++ writeRuns true false column' (runs rest), ?_⟩
      simp [withMarks, hmark]

/-- There are no marks among spaces. -/
theorem withMarks_spaces (doubled : Bool) (n : Nat) :
    withMarks doubled (List.replicate n ' ') = List.replicate n ' ' := by
  cases doubled with
  | false => rfl
  | true =>
    induction n with
    | zero => rfl
    | succ n ih =>
      rw [List.replicate_succ]
      exact congrArg (' ' :: ·) ih

/-- A word, with its single marks doubled. -/
theorem quoted_withMarks {run w text rest : List Char}
    (hrun : ∀ c ∈ run, isVisible c = true ∧ isEdge c = false)
    (h : Quoted '\'' w text rest) :
    Quoted '\'' (withMarks true run ++ w) (run ++ text) rest := by
  induction run with
  | nil => exact h
  | cons c run ih =>
    obtain ⟨hvisible, hedge⟩ := hrun c List.mem_cons_self
    have hmore := ih fun d hd => hrun d (List.mem_cons_of_mem c hd)
    by_cases hmark : c = '\''
    · subst hmark
      exact hmore.mark
    · have hstep := hmore.char hmark (fun h => by cases h)
        (separated_of_visible hvisible hedge _)
      simpa [withMarks, hmark] using hstep

/-- **What is written between single marks stands for the text.** -/
theorem quoted_writeRuns {rest : List Char} (hrest : rest.head? ≠ some '\'')
    (cs : List Char) (hvisible : ∀ c ∈ cs, isVisible c = true)
    (hapart : EdgesApart cs) (isFirst : Bool) (column : Nat) :
    Quoted '\'' (writeRuns true isFirst column (runs cs) ++ '\'' :: rest)
      cs rest := by
  induction cs using runs_induction generalizing isFirst column with
  | nil => exact Quoted.close fun _ => hrest
  | run c w cs hrun ih =>
    obtain ⟨x, column', hx, hwrite⟩ :=
      exists_writtenRun true isFirst column hrun
    have hparts : EdgesApart ((c :: w) ++ cs) := hapart
    have hmore := ih (fun d hd => hvisible d (by simp [hd]))
      hparts.append_right false column'
    -- behind spaces and line ends stands a word or the closing mark
    have hsep (hc : isEdge c = true) : separated
        (writeRuns true false column' (runs cs) ++ '\'' :: rest) = false := by
      have hhead := hapart.head hrun hc
      cases cs with
      | nil => rfl
      | cons d ds =>
        have hd := hhead d rfl
        obtain ⟨more, hstart⟩ := exists_writeRuns_eq_cons true false column' hd
        rw [hstart]
        exact separated_of_visible (hvisible d (by simp)) hd _
    rw [hwrite, List.append_assoc, ← List.cons_append]
    generalize hword : c :: w = word at hx
    cases hx with
    | folded =>
      obtain ⟨rfl, rfl⟩ := List.cons.inj hword
      exact hmore.breaks (.inl rfl) (hsep rfl) 0
    | breaks n =>
      obtain ⟨rfl, -⟩ := List.cons.inj hword
      have hstep := hmore.breaks (.inl rfl) (hsep rfl) (n + 1)
      simpa [indentWidth, List.replicate_succ] using hstep
    | same _ hline =>
      subst hword
      cases hc : isEdge c with
      | true =>
        -- a run of edges with no line feed in it is one of spaces
        have hspace : c = ' ' := by
          have hkind : c = ' ' ∨ c = '\n' := by simpa [isEdge] using hc
          rcases hkind with rfl | rfl
          · rfl
          · exact absurd List.mem_cons_self hline
        subst hspace
        rw [eq_replicate_of_sameRun rfl hrun.same, ← List.replicate_succ,
          withMarks_spaces]
        exact (hmore.spaces (.inl rfl) (.of_separated (hsep rfl)) _).1
      | false =>
        refine quoted_withMarks (fun d hd => ?_) hmore
        refine ⟨hvisible d (List.mem_append_left cs hd), ?_⟩
        rcases List.mem_cons.1 hd with rfl | hd
        · exact hc
        · rw [isEdge_of_sameRun (hrun.same d hd), hc]

/-- A text without double marks holds visible characters only, and no spaces
next to line ends. -/
theorem visible_of_style {cs : List Char} (h : style cs ≠ .doubleQuoted) :
    (∀ c ∈ cs, isVisible c = true) ∧ EdgesApart cs := by
  unfold style at h
  split at h
  · exact absurd rfl h
  · next hnone =>
    simp only [Bool.or_eq_true, Bool.not_eq_true', not_or,
      Bool.not_eq_false, Bool.not_eq_true] at hnone
    obtain ⟨⟨hvisible, hspace⟩, hbreak⟩ := hnone
    exact ⟨List.all_eq_true.1 hvisible, hspace, hbreak⟩

-- ============================================================ double marks

/-- A character that is written as itself. -/
theorem escape_eq_none {c : Char} (h : escape? c = none) :
    ' ' ≤ c ∧ c ≤ '~' ∧ c ≠ '"' ∧ c ≠ '\\' := by
  have hmark : c ≠ '"' := by
    rintro rfl
    exact absurd h (by decide)
  have hbackslash : c ≠ '\\' := by
    rintro rfl
    exact absurd h (by decide)
  unfold escape? at h
  dsimp only at h
  split at h
  · cases h
  · split at h
    · next hrange =>
      rw [Bool.and_eq_true, decide_eq_true_eq, decide_eq_true_eq] at hrange
      exact ⟨hrange.1, hrange.2, hmark, hbackslash⟩
    · split at h
      · cases h
      · split at h <;> cases h

/-- What is written for a character with a backslash: a letter that stands
for it, or its number with enough digits behind the mark of their number. -/
inductive Escapes (c : Char) : List Char → Prop where
  | named (letter : Char) (hletter : escapedChar? letter = some c)
    (hwidth : escapeWidth? letter = none) (hbreak : isBreak letter = false)
    (hvisible : isVisible letter = true) : Escapes c ['\\', letter]
  | numbered (mark : Char) (width : Nat)
    (hmark : escapeWidth? mark = some width) (hvisible : isVisible mark = true)
    (hwidth : 0 < width) (hfits : c.toNat < Nat.pow 16 width) :
    Escapes c ('\\' :: mark
      :: (hexPadded width c.toNat).toList.map (·.toUpper))

/-- Every character that is not written as itself is written so. -/
theorem escapes_of_escape {c : Char} {e : List Char}
    (he : escape? c = some e) : Escapes c e := by
  unfold escape? at he
  dsimp only at he
  split at he
  · next letter hnamed =>
    cases he
    obtain ⟨before, after, hlist, -⟩ := List.lookup_eq_some_iff.1 hnamed
    have hmem : (c, letter) ∈ before ++ (c, letter) :: after := by simp
    rw [← hlist] at hmem
    -- one case for each character that has a letter
    simp only [List.mem_cons, Prod.mk.injEq, List.not_mem_nil,
      or_false] at hmem
    rcases hmem with h | h | h | h | h | h | h | h | h | h | h | h | h | h | h
      <;> obtain ⟨rfl, rfl⟩ := h <;> exact .named _ rfl rfl rfl rfl
  · split at he
    · cases he
    · split at he
      · next hsmall =>
        cases he
        exact .numbered 'x' 2 rfl rfl (by decide) (by simpa using hsmall)
      · split at he
        · next hmiddle =>
          cases he
          exact .numbered 'u' 4 rfl rfl (by decide) (by simpa using hmiddle)
        · cases he
          -- no character has a larger number
          have hlarge : c.toNat < 4294967296 := by
            have hvalid : c.toNat.isValidChar := c.valid
            rcases hvalid with hvalid | hvalid <;> omega
          exact .numbered 'U' 8 rfl rfl (by decide) hlarge

/-- A character that is written with a backslash is read back. -/
theorem Escapes.quoted {c : Char} {e w text rest : List Char}
    (he : Escapes c e) (h : Quoted '"' w text rest) :
    (∃ letters, e = '\\' :: letters)
      ∧ Quoted '"' (e ++ w) (c :: text) rest := by
  cases he with
  | named letter hletter hwidth hbreak =>
    exact ⟨⟨_, rfl⟩, h.named hletter hwidth hbreak⟩
  | numbered mark width hmark _ hwidth hfits =>
    refine ⟨⟨_, rfl⟩, h.numbered ?_ (digitsValue_hexPadded width c.toNat)⟩
    rw [hmark, length_hexPadded hwidth hfits]

/-- A visible character of a word, for one that is written as itself. -/
theorem separated_of_escape_eq_none {c : Char} (h : escape? c = none)
    (hspace : c ≠ ' ') (cs : List Char) : separated (c :: cs) = false := by
  obtain ⟨hlow, hhigh, -, -⟩ := escape_eq_none h
  have hbreak : c ≠ '\n' := by
    rintro rfl
    exact absurd hlow (by decide)
  refine separated_of_visible ?_ ?_ cs
  · simp [isVisible, hlow, hhigh]
  · simp [isEdge, hspace, hbreak]

/-- `w` ends a text in double marks: it stands for `cs`, the closing mark and
`rest`. Behind a space in front of it no line ends, and only a space that
`cs` starts with can be a space at its start. -/
structure EndsQuoted (rest cs w : List Char) : Prop where
  quoted : Quoted '"' w cs rest
  line : StaysOnLine w
  start : cs.head? ≠ some ' ' → separated w = false

namespace EndsQuoted

variable {rest cs w e : List Char} {c : Char}

/-- The closing mark alone. -/
theorem close : EndsQuoted rest [] ('"' :: rest) where
  quoted := Quoted.close fun h => by cases h
  line := .of_separated rfl
  start _ := rfl

/-- A text that starts with a backslash. -/
theorem of_backslash {letters : List Char}
    (h : Quoted '"' ('\\' :: letters) cs rest) :
    EndsQuoted rest cs ('\\' :: letters) where
  quoted := h
  line := .of_separated rfl
  start _ := rfl

/-- A character with a backslash. -/
theorem escaped (h : EndsQuoted rest cs w) (he : escape? c = some e) :
    EndsQuoted rest (c :: cs) (e ++ w) := by
  obtain ⟨⟨letters, rfl⟩, hquoted⟩ := (escapes_of_escape he).quoted h.quoted
  exact of_backslash hquoted

/-- A character that is written as itself. -/
theorem char (h : EndsQuoted rest cs w) (hc : escape? c = none) :
    EndsQuoted rest (c :: cs) (c :: w) := by
  by_cases hspace : c = ' '
  · subst hspace
    exact ⟨h.quoted.space (.inr rfl) h.line, h.line.space, fun h => by
      cases h rfl⟩
  · obtain ⟨-, -, hmark, hbackslash⟩ := escape_eq_none hc
    have hsep := separated_of_escape_eq_none hc hspace w
    exact ⟨h.quoted.char hmark (fun _ => hbackslash) hsep,
      .of_separated hsep, fun _ => hsep⟩

/-- A line broken before a character that is written as itself. -/
theorem broken (h : EndsQuoted rest cs w) (hc : escape? c = none) :
    EndsQuoted rest (c :: cs) (breakBefore c ++ c :: w) := by
  by_cases hspace : c = ' '
  · subst hspace
    have hnamed : Quoted '"' ('\\' :: ' ' :: w) (' ' :: cs) rest :=
      h.quoted.named rfl rfl rfl
    exact of_backslash (hnamed.continued rfl)
  · have hsep := separated_of_escape_eq_none hc hspace w
    have hbreak : breakBefore c = '\\' :: continued := by
      simp [breakBefore, hspace]
    rw [hbreak]
    exact of_backslash ((h.char hc).quoted.continued hsep)

/-- A line broken before a character with a backslash. -/
theorem brokenEscaped (h : EndsQuoted rest (c :: cs) w)
    (he : escape? c = some e) :
    EndsQuoted rest (c :: cs) (breakBefore c ++ w) := by
  have hspace : c ≠ ' ' := by
    rintro rfl
    cases he
  have hbreak : breakBefore c = '\\' :: continued := by
    simp [breakBefore, hspace]
  rw [hbreak]
  exact of_backslash (h.quoted.continued (h.start (by simpa using hspace)))

end EndsQuoted

/-- A line that has just been broken is not broken again. -/
theorem writeEscaped_behind_break {c : Char} (hc : escape? c = none)
    (cs : List Char) :
    writeEscaped false (columnAfterBreak c) [] (c :: cs)
      = writeEscaped false (columnAfterBreak c) [c] cs := by
  have hshort : ¬ lineWidth < columnAfterBreak c := by
    unfold columnAfterBreak lineWidth indentWidth
    split <;> decide
  rw [writeEscaped, hc]
  simp [hshort]

/-- What is written in double marks starts with the characters that were held,
and what comes then stands for the rest of the text. -/
theorem exists_writeEscaped (rest : List Char) :
    ∀ (cs : List Char) (isFirst : Bool) (column : Nat) (held : List Char),
      ∃ w, writeEscaped isFirst column held cs ++ '"' :: rest = held ++ w
        ∧ EndsQuoted rest cs w
  | [], isFirst, column, held => ⟨_, rfl, .close⟩
  | c :: cs, isFirst, column, held => by
    rw [writeEscaped]
    cases he : escape? c with
    | some e =>
      -- a line may be broken behind the escape, where the next one is held
      cases cs with
      | nil => exact ⟨e ++ '"' :: rest, by simp, EndsQuoted.close.escaped he⟩
      | cons d ds =>
        dsimp only
        split
        · cases hd : escape? d with
          | some e' =>
            obtain ⟨w, hw, h⟩ := exists_writeEscaped rest (d :: ds) false
              (columnAfterBreak d) []
            refine ⟨e ++ (breakBefore d ++ w), ?_,
              (h.brokenEscaped hd).escaped he⟩
            simp [hw]
          | none =>
            obtain ⟨w, hw, h⟩ := exists_writeEscaped rest ds false
              (columnAfterBreak d) [d]
            refine ⟨e ++ (breakBefore d ++ d :: w), ?_,
              (h.broken hd).escaped he⟩
            rw [writeEscaped_behind_break hd]
            simp [hw]
        · obtain ⟨w, hw, h⟩ := exists_writeEscaped rest (d :: ds) false
            (column + held.length + e.length) []
          exact ⟨e ++ w, by simp [hw], h.escaped he⟩
    | none =>
      dsimp only
      split
      · obtain ⟨w, hw, h⟩ :=
          exists_writeEscaped rest cs false (columnAfterBreak c) [c]
        refine ⟨breakBefore c ++ c :: w, ?_, h.broken he⟩
        rw [List.append_assoc, List.append_assoc, hw]
        rfl
      · obtain ⟨w, hw, h⟩ :=
          exists_writeEscaped rest cs false column (held ++ [c])
        refine ⟨c :: w, ?_, h.char he⟩
        rw [hw, List.append_assoc]
        rfl
termination_by cs => cs.length

/-- **What is written between double marks stands for the text.** -/
theorem quoted_writeEscaped (cs rest : List Char) (isFirst : Bool)
    (column : Nat) :
    Quoted '"' (writeEscaped isFirst column [] cs ++ '"' :: rest) cs rest := by
  obtain ⟨w, hw, h⟩ := exists_writeEscaped rest cs isFirst column []
  rw [hw]
  exact h.quoted

end LogQuery.Yaml.Writer
