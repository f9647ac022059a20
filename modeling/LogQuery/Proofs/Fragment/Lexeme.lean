/-
The lexeme that starts a text, and how it depends on the text behind it.

Every character but the slash starts a lexeme of which kind and extent are
fixed by the character, except that `@` and `#` look at the next one. So the
laws of the extents carry over to lexemes at once, and only the slash has to
be looked at branch by branch:

- a lexeme takes at least its first character and never more than there is;
- a line feed is as good as the end of the text, unless a block comment is
  open there;
- a cut behind the lexeme keeps it, unless it is a regular expression and the
  cut goes through the word right behind it.

What the kind alone says about a lexeme is read off the rules by which it can
have started.
-/
import LogQuery.Fragment.Scan
import LogQuery.Proofs.Fragment.Extent

namespace LogQuery.Lexeme

open Fragment Text

-- ======================================================= the first lexeme

/-- The lexeme that starts the text `c :: cs`. -/
def first (c : Char) (cs : List Char) : Lexeme :=
  ⟨(opening c cs).1, c :: cs.take (opening c cs).2⟩

@[simp] theorem ofChars_nil : ofChars [] = [] := by
  rw [ofChars]

/-- The first lexeme is cut off first. -/
theorem ofChars_cons (c : Char) (cs : List Char) :
    ofChars (c :: cs) = first c cs :: ofChars (cs.drop (opening c cs).2) := by
  rw [ofChars]
  rfl

/-- What a character other than the slash starts: a kind, and how far
fragments of that kind reach. Whether a word starts is told from outside. -/
def lineOpening (c : Char) (word : Bool) : Kind × (List Char → Nat) :=
  if c = '\n' then (.newline, fun _ => 0)
  else if isBlank c then (.whitespace, gapExtent)
  else if c = '"' then (.quotedString, stringExtent)
  else if isDigit c then (.number, numberExtent)
  else if word then (.word, wordExtent)
  else (.punct, punctExtent c)

theorem opening_slash (cs : List Char) : opening '/' cs = slashOpening cs := by
  have hblank : isBlank '/' = false := by decide
  simp [opening, hblank]

theorem slashOpening_line (rest : List Char) :
    slashOpening ('/' :: rest) = (.comment, lineExtent ('/' :: rest)) := rfl

theorem slashOpening_block (rest : List Char) :
    slashOpening ('*' :: rest) = (.comment, blockExtent rest + 1) := rfl

/-- A slash that starts no comment starts a regular expression, or nothing
but itself. -/
theorem slashOpening_regex {d : Char} (hline : d ≠ '/') (hblock : d ≠ '*')
    (rest : List Char) :
    slashOpening (d :: rest)
      = ((regexExtent? (d :: rest)).map fun n => (Kind.regexLiteral, n)).getD
          (.punct, 0) := by
  unfold slashOpening
  split
  next heq => exact absurd (List.cons.inj heq).1 hline
  next heq => exact absurd (List.cons.inj heq).1 hblock
  next => cases regexExtent? (d :: rest) <;> rfl

/-- All rules but those for a slash are within the line. -/
theorem opening_of_ne_slash {c : Char} (hc : c ≠ '/') (cs : List Char) :
    opening c cs
      = ((lineOpening c (startsWord c cs)).1,
        (lineOpening c (startsWord c cs)).2 cs) := by
  unfold opening lineOpening
  rw [if_neg hc]
  repeat' split
  all_goals rfl

/-- A slash that starts no comment, whatever follows. -/
theorem opening_slash_of_not_comment {cs : List Char}
    (hline : cs.head? ≠ some '/') (hblock : cs.head? ≠ some '*') :
    opening '/' cs
      = ((regexExtent? cs).map fun n => (Kind.regexLiteral, n)).getD
          (.punct, 0) := by
  rw [opening_slash]
  cases cs with
  | nil => rfl
  | cons d rest =>
    refine slashOpening_regex (fun hd => hline ?_) (fun hd => hblock ?_) rest
    all_goals rw [hd, List.head?_cons]

/-- White space but the line feed takes the white space of its line along. -/
theorem opening_blank {c : Char} (hfeed : c ≠ '\n') (hc : isBlank c = true)
    (cs : List Char) : opening c cs = (.whitespace, gapExtent cs) := by
  rw [opening, if_neg hfeed, if_pos hc]

theorem opening_quote (cs : List Char) :
    opening '"' cs = (.quotedString, stringExtent cs) := by
  have hblank : isBlank '"' = false := by decide
  simp [opening, hblank]

/-- The character is no white space, and neither a slash nor a quote. -/
structure Bare (c : Char) : Prop where
  visible : isBlank c = false
  notSlash : c ≠ '/'
  notQuote : c ≠ '"'

/-- What is no white space, no slash and no quote starts a number, a word or
punctuation, tried in this order. -/
theorem opening_of_bare {c : Char} (hc : Bare c) (cs : List Char) :
    opening c cs
      = if isDigit c then (.number, numberExtent cs)
        else if startsWord c cs then (.word, wordExtent cs)
        else (.punct, punctExtent c cs) := by
  have hfeed : c ≠ '\n' := by
    rintro rfl
    exact absurd hc.visible (by decide)
  rw [opening, if_neg hfeed, hc.visible, if_neg Bool.false_ne_true,
    if_neg hc.notSlash, if_neg hc.notQuote]

/-- The rules by which a lexeme starts, each with all that it asks for. -/
inductive Opens (c : Char) (cs : List Char) : Kind × Nat → Prop where
  | newline (hc : c = '\n') : Opens c cs (.newline, 0)
  | gap (hfeed : c ≠ '\n') (hblank : isBlank c = true) :
      Opens c cs (.whitespace, gapExtent cs)
  | lineComment {rest : List Char} (hc : c = '/') (hline : cs = '/' :: rest) :
      Opens c cs (.comment, lineExtent cs)
  | blockComment {rest : List Char} (hc : c = '/') (hblock : cs = '*' :: rest) :
      Opens c cs (.comment, blockExtent rest + 1)
  | regex {n : Nat} (hc : c = '/') (hline : cs.head? ≠ some '/')
      (hblock : cs.head? ≠ some '*') (hclosed : regexExtent? cs = some n) :
      Opens c cs (.regexLiteral, n)
  | slash (hc : c = '/') (hline : cs.head? ≠ some '/')
      (hblock : cs.head? ≠ some '*') (hopen : regexExtent? cs = none) :
      Opens c cs (.punct, 0)
  | string (hc : c = '"') : Opens c cs (.quotedString, stringExtent cs)
  | number (hbare : Bare c) (hdigit : isDigit c = true) :
      Opens c cs (.number, numberExtent cs)
  | word (hbare : Bare c) (hdigit : isDigit c = false)
      (hword : startsWord c cs = true) : Opens c cs (.word, wordExtent cs)
  | mark (hbare : Bare c) (hdigit : isDigit c = false)
      (hword : startsWord c cs = false) :
      Opens c cs (.punct, punctExtent c cs)

theorem opens_slash (cs : List Char) : Opens '/' cs (opening '/' cs) := by
  by_cases hline : cs.head? = some '/'
  · obtain ⟨rest, rfl⟩ := List.head?_eq_some_iff.1 hline
    rw [opening_slash, slashOpening_line]
    exact .lineComment rfl rfl
  by_cases hblock : cs.head? = some '*'
  · obtain ⟨rest, rfl⟩ := List.head?_eq_some_iff.1 hblock
    rw [opening_slash, slashOpening_block]
    exact .blockComment rfl rfl
  rw [opening_slash_of_not_comment hline hblock]
  cases hregex : regexExtent? cs with
  | none => exact .slash rfl hline hblock hregex
  | some n => exact .regex rfl hline hblock hregex

theorem opens_bare {c : Char} (hc : Bare c) (cs : List Char) :
    Opens c cs (opening c cs) := by
  rw [opening_of_bare hc]
  cases hdigit : isDigit c with
  | true => exact .number hc hdigit
  | false =>
    cases hword : startsWord c cs with
    | true => exact .word hc hdigit hword
    | false => exact .mark hc hdigit hword

/-- Every lexeme starts by one of the rules. -/
theorem opens_opening (c : Char) (cs : List Char) :
    Opens c cs (opening c cs) := by
  by_cases hfeed : c = '\n'
  · rw [opening, if_pos hfeed]
    exact .newline hfeed
  cases hblank : isBlank c with
  | true =>
    rw [opening, if_neg hfeed, if_pos hblank]
    exact .gap hfeed hblank
  | false =>
    by_cases hslash : c = '/'
    · rw [hslash]
      exact opens_slash cs
    by_cases hquote : c = '"'
    · rw [hquote, opening_quote]
      exact .string rfl
    · exact opens_bare ⟨hblank, hslash, hquote⟩ cs

theorem withinLine_zero : WithinLine fun _ => 0 where
  le_length _ := Nat.zero_le _
  cut _ _ _ := rfl
  lineFeed _ _ := rfl

/-- The extents of these rules are within the line. -/
theorem withinLine_lineOpening (c : Char) (word : Bool) :
    WithinLine (lineOpening c word).2 := by
  unfold lineOpening
  split
  · exact withinLine_zero
  split
  · exact withinLine_gapExtent
  split
  · exact withinLine_stringExtent
  split
  · exact withinLine_numberExtent
  split
  · exact withinLine_wordExtent
  · exact withinLine_punctExtent c

-- ================================================================= bounds

/-- What a slash takes along is inside the text. -/
theorem slashOpening_le_length (cs : List Char) :
    (slashOpening cs).2 ≤ cs.length := by
  unfold slashOpening
  split
  next rest => exact withinLine_lineExtent.le_length ('/' :: rest)
  next rest => exact Nat.succ_le_succ (local_blockExtent.le_length rest)
  next =>
    split
    next n hn => exact (regexExtent?_bounds hn).2
    next => exact Nat.zero_le _

/-- What a first character takes along is inside the text. -/
theorem opening_le_length (c : Char) (cs : List Char) :
    (opening c cs).2 ≤ cs.length := by
  by_cases hc : c = '/'
  · rw [hc, opening_slash]
    exact slashOpening_le_length cs
  · rw [opening_of_ne_slash hc]
    exact (withinLine_lineOpening c _).le_length cs

/-- The first lexeme is its first character with what that takes along. -/
theorem length_chars_first (c : Char) (cs : List Char) :
    (first c cs).chars.length = (opening c cs).2 + 1 := by
  have := opening_le_length c cs
  simp only [first, List.length_cons, List.length_take]
  omega

/-- No lexeme is empty. -/
theorem chars_ne_nil {cs : List Char} {l : Lexeme} (h : l ∈ ofChars cs) :
    l.chars ≠ [] := by
  fun_induction ofChars cs with
  | case1 => cases h
  | case2 c cs o ih =>
    rcases List.mem_cons.1 h with rfl | h
    · exact List.cons_ne_nil _ _
    · exact ih h

/-- The lexemes of a text make up the text. -/
theorem flatMap_chars_ofChars (cs : List Char) :
    (ofChars cs).flatMap (·.chars) = cs := by
  fun_induction ofChars cs with
  | case1 => rfl
  | case2 c cs o ih =>
    rw [List.flatMap_cons, ih, List.cons_append, List.take_append_drop]

-- ============================================================= line feeds

/-- White space is as good as the end of the text to the start of a word. -/
theorem startsWord_stop {g : Char} (hg : isWordChar g = false) (c : Char)
    (xs ys : List Char) : startsWord c (xs ++ g :: ys) = startsWord c xs := by
  cases xs with
  | nil => simp [startsWord, hg]
  | cons d xs => rfl

/-- Whether a word starts does not depend on what follows white space. -/
theorem startsWord_blank {g : Char} (hg : isBlank g = true) (c : Char)
    (xs ys : List Char) : startsWord c (xs ++ g :: ys) = startsWord c xs :=
  startsWord_stop (isWordChar_of_isBlank hg) c xs ys

/-- A block comment of which the end is missing. -/
def isUnclosed (l : Lexeme) : Bool :=
  l.kind = .comment && ['/', '*'].isPrefixOf l.chars
    && !(['*', '/'].isSuffixOf (l.chars.drop 2))

/-- A block comment is open if it does not end with its closing mark. -/
theorem isUnclosed_block (rest : List Char) :
    (first '/' ('*' :: rest)).isUnclosed
      = !(['*', '/'].isSuffixOf (rest.take (blockExtent rest))) := by
  rw [first, opening_slash, slashOpening_block, List.take_succ_cons]
  rfl

/-- A slash takes no more along when a line follows, unless it opens a comment
without an end. -/
theorem slashOpening_lineFeed {xs : List Char} (ys : List Char)
    (h : (first '/' xs).isUnclosed = false) :
    slashOpening (xs ++ '\n' :: ys) = slashOpening xs := by
  cases xs with
  | nil => rfl
  | cons d xs =>
    by_cases hline : d = '/'
    · subst hline
      rw [List.cons_append, slashOpening_line, slashOpening_line,
        ← List.cons_append, withinLine_lineExtent.lineFeed]
    by_cases hblock : d = '*'
    · subst hblock
      -- a comment that has its end does not see the line feed
      rw [isUnclosed_block, Bool.not_eq_false', List.isSuffixOf_iff_suffix] at h
      rw [List.cons_append, slashOpening_block, slashOpening_block,
        blockExtent_append_of_closed _ h]
    · rw [List.cons_append, slashOpening_regex hline hblock,
        slashOpening_regex hline hblock, ← List.cons_append,
        regexExtent?_lineFeed]

/-- A line feed is as good as the end of the text, unless a block comment is
open there. -/
theorem opening_lineFeed {c : Char} {xs : List Char} (ys : List Char)
    (h : (first c xs).isUnclosed = false) :
    opening c (xs ++ '\n' :: ys) = opening c xs := by
  by_cases hc : c = '/'
  · subst hc
    rw [opening_slash, opening_slash, slashOpening_lineFeed ys h]
  · rw [opening_of_ne_slash hc, opening_of_ne_slash hc,
      startsWord_blank isBlank_lineFeed,
      (withinLine_lineOpening c _).lineFeed]

/-- Only the line feed itself and a block comment hold line feeds. -/
theorem lineFeed_mem_first {c : Char} {cs : List Char}
    (h : '\n' ∈ (first c cs).chars) :
    first c cs = ⟨.newline, ['\n']⟩
      ∨ ((first c cs).kind = .comment ∧ ['/', '*'] <+: (first c cs).chars) := by
  rcases List.mem_cons.1 h with hc | hmem
  · left
    subst hc
    rfl
  by_cases hc : c = '/'
  case neg =>
    -- all other rules stay within the line
    rw [opening_of_ne_slash hc] at hmem
    exact absurd hmem ((withinLine_lineOpening c _).lineFeed_not_mem cs)
  subst hc
  rw [opening_slash] at hmem
  cases cs with
  | nil => cases hmem
  | cons d rest =>
    by_cases hline : d = '/'
    · subst hline
      rw [slashOpening_line] at hmem
      exact absurd hmem (withinLine_lineExtent.lineFeed_not_mem _)
    by_cases hblock : d = '*'
    · subst hblock
      right
      rw [first, opening_slash, slashOpening_block, List.take_succ_cons]
      exact ⟨rfl, List.prefix_append ['/', '*'] _⟩
    · rw [slashOpening_regex hline hblock] at hmem
      cases hregex : regexExtent? (d :: rest) with
      | none =>
        rw [hregex] at hmem
        cases hmem
      | some n =>
        rw [hregex] at hmem
        -- the text up to the line feed has the same regular expression
        refine absurd hmem (lineFeed_not_mem_take fun xs ys heq => ?_)
        rw [heq, regexExtent?_lineFeed] at hregex
        exact (regexExtent?_bounds hregex).2

-- =================================================================== cuts

/-- A character that can start nothing but a word. -/
theorem opening_word {c : Char} {cs : List Char}
    (hstart : startsWord c cs = true)
    (hother : c ≠ '\n' ∧ isBlank c = false ∧ c ≠ '/' ∧ c ≠ '"'
      ∧ isDigit c = false) :
    opening c cs = (.word, wordExtent cs) := by
  obtain ⟨hfeed, hblank, hslash, hquote, hdigit⟩ := hother
  simp [opening, hfeed, hblank, hslash, hquote, hdigit, hstart]

/-- A lexeme that starts with flag letters and reaches a word character
behind the cut does not fit before the cut. -/
theorem length_lt_of_cutFlags {c : Char} {xs ys : List Char}
    (h : CutFlags (c :: xs) ys) : xs.length < (opening c (xs ++ ys)).2 := by
  obtain ⟨-, hflags, hword⟩ := h
  obtain ⟨hletter, hother⟩ : isLetter c = true
      ∧ c ≠ '\n' ∧ isBlank c = false ∧ c ≠ '/' ∧ c ≠ '"'
      ∧ isDigit c = false := by
    rcases eq_of_isFlag (hflags c List.mem_cons_self)
      with rfl | rfl | rfl | rfl | rfl
    all_goals decide
  -- a flag letter starts a word, which all the letters belong to
  have hstart : startsWord c (xs ++ ys) = true := by
    simp [startsWord, hletter]
  have hxs : ∀ d ∈ xs, isWordChar d = true := fun d hd =>
    isWordChar_of_isFlag (hflags d (List.mem_cons_of_mem c hd))
  cases ys with
  | nil => cases hword
  | cons y ys =>
    rw [opening_word hstart hother, wordExtent_append_of_all _ hxs,
      wordExtent_cons hword]
    omega

/-- A slash that takes nothing along starts nothing but itself. -/
theorem slashOpening_eq_punct {cs : List Char} (h : (slashOpening cs).2 = 0) :
    slashOpening cs = (.punct, 0) := by
  cases cs with
  | nil => rfl
  | cons d rest =>
    by_cases hline : d = '/'
    · subst hline
      -- a comment takes at least its second mark along
      simp [slashOpening_line, lineExtent] at h
    by_cases hblock : d = '*'
    · subst hblock
      simp [slashOpening_block] at h
    rw [slashOpening_regex hline hblock] at h ⊢
    cases hregex : regexExtent? (d :: rest) with
    | none => rfl
    | some n =>
      rw [hregex] at h
      exact absurd h (regexExtent?_bounds hregex).1.ne'

/-- A cut behind what a slash takes along keeps it, unless the cut goes through
a word behind the flags. -/
theorem slashOpening_cut {xs ys : List Char}
    (h : (slashOpening (xs ++ ys)).2 ≤ xs.length) :
    slashOpening xs = slashOpening (xs ++ ys)
      ∨ ((slashOpening (xs ++ ys)).1 = .regexLiteral
        ∧ slashOpening xs = (.regexLiteral, xs.length)
        ∧ CutFlags (xs.drop (slashOpening (xs ++ ys)).2) ys) := by
  cases xs with
  | nil =>
    left
    rw [List.nil_append] at h ⊢
    exact (slashOpening_eq_punct (Nat.le_zero.1 h)).symm
  | cons d xs =>
    by_cases hline : d = '/'
    · subst hline
      left
      rw [List.cons_append, slashOpening_line, ← List.cons_append] at h
      rw [List.cons_append, slashOpening_line, slashOpening_line,
        ← List.cons_append, withinLine_lineExtent.cut _ _ h]
    by_cases hblock : d = '*'
    · subst hblock
      left
      rw [List.cons_append, slashOpening_block, List.length_cons] at h
      rw [List.cons_append, slashOpening_block, slashOpening_block,
        local_blockExtent.cut xs ys (by omega)]
    · have hsplit := slashOpening_regex hline hblock (xs ++ ys)
      rw [← List.cons_append] at hsplit
      rw [hsplit] at h ⊢
      rw [slashOpening_regex hline hblock]
      cases hfull : regexExtent? (d :: xs ++ ys) with
      | none => exact Or.inl (by rw [regexExtent?_cut_none ys hfull])
      | some n =>
        rw [hfull] at h
        -- only the flags may change
        rcases regexExtent?_cut hfull h with heq | ⟨hcut, heq⟩
        · exact Or.inl (by rw [heq])
        · exact Or.inr ⟨rfl, by rw [heq]; rfl, hcut⟩

/-- If a cut takes away that a word starts, it takes away the character that
the word goes on with. -/
theorem startsWord_cut {c : Char} {xs ys : List Char}
    (h : startsWord c xs ≠ startsWord c (xs ++ ys)) :
    xs = [] ∧ 0 < (opening c ys).2 := by
  cases xs with
  | cons d xs => exact absurd rfl h
  | nil =>
    refine ⟨rfl, ?_⟩
    rw [List.nil_append] at h
    -- only `@` and `#` look at what is behind them
    have hstart : startsWord c ys = true
        ∧ (c = '@' ∨ c = '#') ∧ ys.head?.any isWordChar = true := by
      revert h
      unfold startsWord
      cases isLetter c <;> cases decide (c = '_') <;> simp
    obtain ⟨hstart, hmark, hword⟩ := hstart
    have hother : c ≠ '\n' ∧ isBlank c = false ∧ c ≠ '/' ∧ c ≠ '"'
        ∧ isDigit c = false := by
      rcases hmark with rfl | rfl <;> decide
    cases ys with
    | nil => cases hword
    | cons y ys =>
      rw [opening_word hstart hother, wordExtent_cons hword]
      exact Nat.succ_pos _

/-- A cut behind the first lexeme keeps it, unless it is a regular
expression and the cut goes through a word right behind it. -/
theorem opening_cut {c : Char} {xs ys : List Char}
    (h : (opening c (xs ++ ys)).2 ≤ xs.length) :
    opening c xs = opening c (xs ++ ys)
      ∨ ((opening c (xs ++ ys)).1 = .regexLiteral
        ∧ opening c xs = (.regexLiteral, xs.length)
        ∧ CutFlags (xs.drop (opening c (xs ++ ys)).2) ys) := by
  by_cases hc : c = '/'
  · subst hc
    rw [opening_slash] at h ⊢
    rw [opening_slash]
    exact slashOpening_cut h
  by_cases hword : startsWord c xs = startsWord c (xs ++ ys)
  · left
    rw [opening_of_ne_slash hc] at h ⊢
    rw [opening_of_ne_slash hc, hword]
    rw [(withinLine_lineOpening c _).cut xs ys h]
  -- the cut is right behind the mark, so the word is longer
  · obtain ⟨rfl, hpos⟩ := startsWord_cut hword
    rw [List.nil_append, List.length_nil] at h
    omega

end LogQuery.Lexeme
