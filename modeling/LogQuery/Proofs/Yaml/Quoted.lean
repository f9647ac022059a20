/-
Reading scalars in quotation marks.

`Quoted q w text rest` says that `w`, which stands behind the opening mark
`q`, is `text`, its closing mark and then `rest`. The lemmas below are the
ways in which such a `w` grows at its front: by a character, by a space, by
a line end that is folded, and by an escape.
-/
import LogQuery.Proofs.Text.Blank
import LogQuery.Proofs.Text.Hex
import LogQuery.Yaml.Scalar

namespace LogQuery.Yaml

open Text

-- ================================================================= spaces

/-- Characters between words. -/
abbrev isGap (c : Char) : Bool := c = ' ' || c = '\t'

/-- What separates nothing is neither a space nor the start of a line end. -/
theorem separated_cons_eq_false {c : Char} {cs : List Char} :
    separated (c :: cs) = false
      ↔ c ≠ ' ' ∧ c ≠ '\t' ∧ isBreak c = false := by
  simp [separated, and_assoc]

/-- No line end starts with a character that is none. -/
theorem lineBreak_cons_of_not_break {c : Char} {cs : List Char}
    (h : isBreak c = false) : lineBreak? (c :: cs) = none := by
  have hmarks : c ≠ '\n' ∧ c ≠ '\r' ∧ c ≠ '\u0085' ∧ c ≠ '\u2028'
      ∧ c ≠ '\u2029' := by
    simpa [isBreak, and_assoc] using h
  rw [lineBreak?.eq_2 c cs fun _ hc _ => hmarks.2.1 hc]
  simp [hmarks, h]

/-- What separates nothing does not start with a line end. -/
theorem lineBreak_of_separated {w : List Char} (h : separated w = false) :
    lineBreak? w = none := by
  cases w with
  | nil => rfl
  | cons c cs =>
    exact lineBreak_cons_of_not_break (separated_cons_eq_false.1 h).2.2

/-- Behind its spaces the text has no line end. -/
def StaysOnLine (w : List Char) : Prop := lineBreak? (w.dropWhile isGap) = none

theorem StaysOnLine.of_separated {w : List Char} (h : separated w = false) :
    StaysOnLine w := by
  cases w with
  | nil => rfl
  | cons c cs =>
    obtain ⟨hspace, htab, hbreak⟩ := separated_cons_eq_false.1 h
    have hgap : isGap c = false := by simp [hspace, htab]
    rw [StaysOnLine, List.dropWhile_cons_of_neg (by simp [hgap])]
    exact lineBreak_cons_of_not_break hbreak

theorem StaysOnLine.space {w : List Char} (h : StaysOnLine w) :
    StaysOnLine (' ' :: w) := h

-- ============================================================== line ends

/-- No mark between documents starts with white space. -/
theorem atDocumentMark_of_separated {c : Char} {cs : List Char}
    (h : separated (c :: cs) = true) : atDocumentMark (c :: cs) = false := by
  have hc : c ≠ '-' ∧ c ≠ '.' := by
    constructor <;> rintro rfl <;> simp [separated, isBreak] at h
  simp [atDocumentMark, hc]

/-- Line ends before a text that is indented by two spaces. -/
theorem quotedBreaks_replicate {w : List Char} (h : separated w = false)
    (m : Nat) {fuel : Nat} (hfuel : m < fuel) :
    quotedBreaks fuel (List.replicate m '\n' ++ ' ' :: ' ' :: w)
      = some (List.replicate m '\n', w) := by
  induction m generalizing fuel with
  | zero =>
    cases fuel with
    | zero => cases hfuel
    | succ fuel =>
      rw [List.replicate_zero, List.nil_append, quotedBreaks,
        if_neg (by simp [atDocumentMark_of_separated, separated])]
      -- the indentation is skipped, and what follows is no white space
      have hrest : (' ' :: ' ' :: w).dropWhile isGap = w := by
        cases w with
        | nil => cases h
        | cons c cs =>
          obtain ⟨hspace, htab, -⟩ := separated_cons_eq_false.1 h
          show (c :: cs).dropWhile isGap = c :: cs
          exact List.dropWhile_cons_of_neg (by simp [hspace, htab])
      dsimp only
      rw [hrest, lineBreak_of_separated h]
  | succ m ih =>
    cases fuel with
    | zero => cases hfuel
    | succ fuel =>
      rw [List.replicate_succ, List.cons_append, quotedBreaks,
        if_neg (by simp [atDocumentMark_of_separated, separated, isBreak])]
      show (quotedBreaks fuel
        (List.replicate m '\n' ++ ' ' :: ' ' :: w)).bind _ = _
      rw [ih (Nat.lt_of_succ_lt_succ hfuel)]
      rfl

-- =========================================================== quoted texts

/-- Behind the opening mark `quote` the characters `w` are `text`, the closing
mark and then `rest`. -/
def Quoted (quote : Char) (w text rest : List Char) : Prop :=
  ∀ fuel, w.length < fuel → quotedFrom quote fuel w = .ok (text, rest)

namespace Quoted

variable {quote : Char} {w text rest : List Char}

/-- Every reading takes at least one step. -/
theorem of_step (h : ∀ fuel, w.length ≤ fuel →
    quotedFrom quote (fuel + 1) w = .ok (text, rest)) :
    Quoted quote w text rest := by
  intro fuel hfuel
  cases fuel with
  | zero => exact absurd hfuel (Nat.not_lt_zero _)
  | succ fuel => exact h fuel (Nat.le_of_lt_succ hfuel)

/-- The closing mark, which is not doubled. -/
theorem close (h : quote = '\'' → rest.head? ≠ some '\'') :
    Quoted quote (quote :: rest) [] rest := by
  refine of_step fun fuel _ => ?_
  rw [quotedFrom, if_pos rfl, if_neg (by simpa using h)]

/-- A character that stands for itself. -/
theorem char {c : Char} (h : Quoted quote w text rest) (hquote : c ≠ quote)
    (hescape : quote = '"' → c ≠ '\\')
    (hsep : separated (c :: w) = false) :
    Quoted quote (c :: w) (c :: text) rest := by
  refine of_step fun fuel hfuel => ?_
  rw [quotedFrom, if_neg hquote, if_neg (by simpa using hescape),
    if_neg (by simp [hsep]), h fuel hfuel]
  rfl

/-- Two single marks are one. -/
theorem mark (h : Quoted '\'' w text rest) :
    Quoted '\'' ('\'' :: '\'' :: w) ('\'' :: text) rest := by
  refine of_step fun fuel hfuel => ?_
  have hw : w.length < fuel := by simp at hfuel; omega
  rw [quotedFrom, if_pos rfl, if_pos (by simp), List.drop_one, List.tail_cons,
    h fuel hw]
  rfl

/-- Spaces and tabs that are not followed by a line end are kept. -/
theorem gaps_eq (hquote : quote = '\'' ∨ quote = '"') {c : Char}
    (hgap : isGap c = true) (hline : StaysOnLine (c :: w)) (fuel : Nat) :
    quotedFrom quote (fuel + 1) (c :: w)
      = quotedFrom.continueWith ((c :: w).takeWhile isGap)
          (quotedFrom quote fuel ((c :: w).dropWhile isGap)) := by
  have hne : c ≠ quote ∧ c ≠ '\\' := by
    have hc : c = ' ' ∨ c = '\t' := by simpa using hgap
    rcases hc with rfl | rfl <;> rcases hquote with rfl | rfl <;> decide
  have hsep : separated (c :: w) = true := by
    simp only [separated, hgap, Bool.true_or]
  rw [quotedFrom, if_neg hne.1, if_neg (by simp [hne.2]), if_pos hsep]
  dsimp only
  rw [drop_length_takeWhile]
  have hnone : lineBreak? ((c :: w).dropWhile isGap) = none := hline
  rw [hnone]

/-- A space on a line. -/
theorem space (hquote : quote = '\'' ∨ quote = '"')
    (h : Quoted quote w text rest) (hline : StaysOnLine w) :
    Quoted quote (' ' :: w) (' ' :: text) rest := by
  refine of_step fun fuel hfuel => ?_
  rw [gaps_eq hquote rfl hline.space, List.takeWhile_cons_of_pos rfl,
    List.dropWhile_cons_of_pos rfl]
  -- the spaces of `w`, if any, are read together with the one before them
  by_cases hgap : ∃ c cs, w = c :: cs ∧ isGap c = true
  · obtain ⟨c, cs, rfl, hc⟩ := hgap
    have hread := h (fuel + 1) (Nat.lt_succ_of_lt hfuel)
    rw [gaps_eq hquote hc hline] at hread
    unfold quotedFrom.continueWith at hread ⊢
    cases hrest : quotedFrom quote fuel ((c :: cs).dropWhile isGap) with
    | error e => rw [hrest] at hread; cases hread
    | ok x =>
      rw [hrest] at hread
      cases hread
      rfl
  · have hnone : w.takeWhile isGap = [] ∧ w.dropWhile isGap = w := by
      cases w with
      | nil => exact ⟨rfl, rfl⟩
      | cons c cs =>
        have hc : ¬ isGap c = true := fun hc => hgap ⟨c, cs, rfl, hc⟩
        exact ⟨List.takeWhile_cons_of_neg hc, List.dropWhile_cons_of_neg hc⟩
    rw [hnone.1, hnone.2, h fuel hfuel]
    rfl

/-- Spaces on a line. -/
theorem spaces (hquote : quote = '\'' ∨ quote = '"')
    (h : Quoted quote w text rest) (hline : StaysOnLine w) (n : Nat) :
    Quoted quote (List.replicate n ' ' ++ w) (List.replicate n ' ' ++ text)
        rest
      ∧ StaysOnLine (List.replicate n ' ' ++ w) := by
  induction n with
  | zero => exact ⟨h, hline⟩
  | succ n ih => exact ⟨ih.1.space hquote ih.2, ih.2.space⟩

/-- Line ends before a text that is indented: of several one counts for
nothing, and a single one stands for a space. -/
theorem breaks (hquote : quote = '\'' ∨ quote = '"')
    (h : Quoted quote w text rest) (hsep : separated w = false) (m : Nat) :
    Quoted quote
      ('\n' :: (List.replicate m '\n' ++ ' ' :: ' ' :: w))
      ((if m = 0 then [' '] else List.replicate m '\n') ++ text) rest := by
  refine of_step fun fuel hfuel => ?_
  have hne : '\n' ≠ quote := by rcases hquote with rfl | rfl <;> decide
  have hlength : m + 2 + w.length < fuel := by
    simp only [List.length_cons, List.length_append,
      List.length_replicate] at hfuel
    omega
  have hbreaks : quotedBreaks
      (List.replicate m '\n' ++ ' ' :: ' ' :: w).length.succ
      (List.replicate m '\n' ++ ' ' :: ' ' :: w)
      = some (List.replicate m '\n', w) :=
    quotedBreaks_replicate hsep m (by
      rw [List.length_append, List.length_replicate]
      omega)
  rw [quotedFrom, if_neg hne, if_neg (by simp),
    if_pos (by simp [separated, isBreak])]
  -- from here on it only matters how the line ends are read
  generalize List.replicate m '\n' ++ ' ' :: ' ' :: w = cs at hbreaks ⊢
  have hfirst : lineBreak? ('\n' :: cs) = some ('\n', 1) := rfl
  have hspaces : ('\n' :: cs).takeWhile (fun c => c = ' ' || c = '\t') = [] :=
    rfl
  dsimp only
  rw [hspaces, List.length_nil, List.drop_zero, hfirst]
  dsimp only
  rw [List.drop_succ_cons, List.drop_zero, hbreaks]
  dsimp only
  rw [h fuel (by omega)]
  cases m with
  | zero => rfl
  | succ m => rfl

-- ================================================================= escapes

/-- What a backslash starts. -/
theorem escaped {cs part : List Char} (h : Quoted '"' w text rest)
    (hescape : escape cs = .ok (part, w)) (hlength : w.length ≤ cs.length) :
    Quoted '"' ('\\' :: cs) (part ++ text) rest := by
  refine of_step fun fuel hfuel => ?_
  have hw : w.length < fuel := by simp at hfuel; omega
  rw [quotedFrom, if_neg (by decide), if_pos (by simp), hescape]
  show quotedFrom.continueWith part (quotedFrom '"' fuel w) = _
  rw [h fuel hw]
  rfl

/-- A character that is written as a backslash and a letter. -/
theorem named {c e : Char} (h : Quoted '"' w text rest)
    (hletter : escapedChar? e = some c) (hwidth : escapeWidth? e = none)
    (hbreak : isBreak e = false) :
    Quoted '"' ('\\' :: e :: w) (c :: text) rest := by
  have hescape : escape (e :: w) = .ok ([c], w) := by
    simp [escape, escapedNumber?, hwidth, lineBreak_cons_of_not_break hbreak,
      hletter]
  exact escaped h hescape (by simp)

/-- A character that is written as its number. -/
theorem numbered {c e : Char} {ds : List Char} (h : Quoted '"' w text rest)
    (hwidth : escapeWidth? e = some ds.length)
    (hvalue : digitsValue? 16 ds = some c.toNat) :
    Quoted '"' ('\\' :: e :: (ds ++ w)) (c :: text) rest := by
  have hescape : escape (e :: (ds ++ w)) = .ok ([c], w) := by
    have hnumber : escapedNumber? (e :: (ds ++ w)) = some (c.toNat, w) := by
      simp [escapedNumber?, hwidth, hvalue]
    have hvalid : c.toNat.isValidChar := c.valid
    have hrange : ¬ 0x10FFFF < c.toNat := by
      rcases hvalid with h | h <;> omega
    simp [escape, hnumber, characterOf, hrange, hvalid, Except.map]
  exact escaped h hescape (by simp; omega)

/-- A line end behind a backslash stands for nothing. -/
theorem continued (h : Quoted '"' w text rest) (hsep : separated w = false) :
    Quoted '"' ('\\' :: '\n' :: ' ' :: ' ' :: w) text rest := by
  have hescape : escape ('\n' :: ' ' :: ' ' :: w) = .ok ([], w) := by
    have hbreaks : quotedBreaks ('\n' :: ' ' :: ' ' :: w).length.succ
        (' ' :: ' ' :: w) = some ([], w) :=
      quotedBreaks_replicate hsep 0 (by simp)
    show (quotedBreaks ('\n' :: ' ' :: ' ' :: w).length.succ
      (' ' :: ' ' :: w)).elim (Except.error ScalarDefect.malformed) Except.ok
        = _
    rw [hbreaks]
    rfl
  exact escaped h hescape (by simp; omega)

end Quoted

end LogQuery.Yaml
