/-
How an extent depends on the text that it is given.

Two laws hold of every extent but one. It stays inside the text; and what it
does not reach has no say in it, so cutting that off leaves the extent as it
was. A third law holds of every extent that is no block comment: a line feed
is as good as the end of the text. Together they say that such an extent
never passes a line feed. To numbers, words and punctuation any white space is
as good as the end of the text.

The one exception is a regular expression. It keeps to the second law up to
its flags: a run of flag letters that goes on as a longer word is no run of
flags, and a cut through that word makes it one.
-/
import LogQuery.Fragment.Extent
import LogQuery.Proofs.Text.Blank
import Mathlib.Data.List.Find
import Mathlib.Data.List.TakeWhile

namespace LogQuery.Fragment

open Text

-- ============================================================== the laws

/-- An extent that stays inside the text and does not depend on what it
does not reach. -/
structure Local (E : List Char → Nat) : Prop where
  le_length (cs : List Char) : E cs ≤ cs.length
  cut (xs ys : List Char) : E (xs ++ ys) ≤ xs.length → E xs = E (xs ++ ys)

/-- To the extent, a character is as good as the end of the text. -/
def EndsAt (g : Char) (E : List Char → Nat) : Prop :=
  ∀ xs ys : List Char, E (xs ++ g :: ys) = E xs

/-- A local extent for which a line feed is as good as the end of the
text. -/
structure WithinLine (E : List Char → Nat) : Prop extends Local E where
  lineFeed (xs ys : List Char) : E (xs ++ '\n' :: ys) = E xs

/-- What ends with the line holds no line feed. -/
theorem lineFeed_not_mem_take {cs : List Char} {n : Nat}
    (h : ∀ xs ys, cs = xs ++ '\n' :: ys → n ≤ xs.length) :
    '\n' ∉ cs.take n := by
  intro hmem
  obtain ⟨xs, ys, htake⟩ := List.append_of_mem hmem
  have hle : n ≤ xs.length := by
    refine h xs (ys ++ cs.drop n) ?_
    calc cs = cs.take n ++ cs.drop n := (List.take_append_drop n cs).symm
      _ = xs ++ '\n' :: (ys ++ cs.drop n) := by rw [htake]; simp
  have hlen : (cs.take n).length = xs.length + (ys.length + 1) := by
    rw [htake, List.length_append, List.length_cons]
  have := List.length_take_le n cs
  omega

/-- An extent within the line takes no line feed along. -/
theorem WithinLine.lineFeed_not_mem {E : List Char → Nat}
    (hE : WithinLine E) (cs : List Char) : '\n' ∉ cs.take (E cs) := by
  refine lineFeed_not_mem_take fun xs ys hcs => ?_
  rw [hcs, hE.lineFeed]
  exact hE.le_length xs

-- ============================================================= white space

section

variable {c : Char}

/-- White space does not go on with a word. -/
theorem isWordChar_of_isBlank (hc : isBlank c = true) :
    isWordChar c = false := by
  have hall : (blanks.chars.all fun c => !isWordChar c) = true := by
    decide +kernel
  have hother := forall_isBlank (List.all_eq_true.1 hall) hc
  rwa [Bool.not_eq_true'] at hother

/-- White space is no digit. -/
theorem isDigit_of_isBlank (hc : isBlank c = true) : isDigit c = false := by
  by_contra hdigit
  rw [Bool.not_eq_false] at hdigit
  have hword := isWordChar_of_isBlank hc
  simp [isWordChar, isNumeral_of_isDigit hdigit] at hword

/-- White space is told from any other character. -/
theorem ne_of_isBlank {d : Char} (hc : isBlank c = true)
    (hd : isBlank d = false) : c ≠ d := by
  rintro rfl
  rw [hc] at hd
  cases hd

theorem isBlank_lineFeed : isBlank '\n' = true := by decide

end

-- ================================================================== runs

/-- The longest run of characters of one class is a local extent. -/
theorem local_run (p : Char → Bool) :
    Local fun cs => (cs.takeWhile p).length where
  le_length cs := (List.takeWhile_prefix p).length_le
  cut xs ys h := by
    simp only [List.takeWhile_append] at h ⊢
    split
    next hall =>
      rw [if_pos hall, List.length_append] at h
      rw [List.length_append, hall]
      omega
    next => rfl

/-- A character of another class is as good as the end of the text. -/
theorem endsAt_run {p : Char → Bool} {g : Char} (hg : p g = false) :
    EndsAt g fun cs => (cs.takeWhile p).length := by
  intro xs ys
  -- the run is over at `g` at the latest
  have hnil : (g :: ys).takeWhile p = [] :=
    List.takeWhile_cons_of_neg (by simp [hg])
  simp only [List.takeWhile_append, hnil]
  split
  next hall => rw [List.append_nil, hall]
  next => rfl

/-- A run of a class without the line feed stays within the line. -/
theorem withinLine_run {p : Char → Bool} (hp : p '\n' = false) :
    WithinLine fun cs => (cs.takeWhile p).length where
  toLocal := local_run p
  lineFeed := endsAt_run hp

theorem withinLine_gapExtent : WithinLine gapExtent :=
  withinLine_run (by decide)

theorem withinLine_lineExtent : WithinLine lineExtent :=
  withinLine_run (by decide)

theorem withinLine_digitExtent : WithinLine digitExtent :=
  withinLine_run (by decide)

theorem endsAt_digitExtent {g : Char} (hg : isBlank g = true) :
    EndsAt g digitExtent :=
  endsAt_run (isDigit_of_isBlank hg)

-- ========================================================= block comments

/-- Where the end of a comment does not start, the comment takes one character.
-/
theorem blockExtent_cons {c : Char} {cs : List Char}
    (hopen : ∀ rest, c = '*' → cs ≠ '/' :: rest) :
    blockExtent (c :: cs) = blockExtent cs + 1 :=
  blockExtent.eq_3 c cs hopen

/-- A block comment is local: its end is where the first closing mark stands,
or where the text ends. -/
theorem local_blockExtent : Local blockExtent where
  le_length cs := by
    fun_induction blockExtent cs with
    | case1 => exact Nat.le_refl 0
    | case2 cs => simp only [List.length_cons]; omega
    | case3 c cs _ ih => simp only [List.length_cons]; omega
  cut xs ys h := by
    fun_induction blockExtent xs with
    | case1 => exact (Nat.le_zero.1 h).symm
    | case2 cs => rfl
    | case3 c cs hopen ih =>
      have hopen' : ∀ rest, c = '*' → cs ++ ys ≠ '/' :: rest := by
        rintro rest rfl hrest
        cases cs with
        | nil =>
          -- a star cut off from its slash does not fit
          rw [List.nil_append] at hrest
          subst hrest
          simp [blockExtent] at h
        | cons d cs =>
          cases hrest
          exact hopen cs rfl rfl
      have hstep := blockExtent_cons hopen'
      rw [List.cons_append, hstep, List.length_cons] at h
      rw [List.cons_append, hstep, ih (by omega)]

/-- A block comment that has its end keeps it, whatever follows. -/
theorem blockExtent_append_of_closed {cs : List Char} (ys : List Char)
    (h : ['*', '/'] <:+ cs.take (blockExtent cs)) :
    blockExtent (cs ++ ys) = blockExtent cs := by
  fun_induction blockExtent cs with
  | case1 => simp at h
  | case2 cs => rfl
  | case3 c cs hopen ih =>
    rw [List.take_succ_cons] at h
    rcases List.suffix_cons_iff.1 h with heq | hsuffix
    · -- the end would start at this star, but then it ends the text here
      obtain ⟨hc, hcs⟩ := List.cons.inj heq
      have hslash : ['/'] <+: cs := hcs ▸ List.take_prefix _ cs
      obtain ⟨rest, hrest⟩ := hslash
      exact (hopen rest hc.symm hrest.symm).elim
    · have hopen' : ∀ rest, c = '*' → cs ++ ys ≠ '/' :: rest := by
        rintro rest rfl hrest
        cases cs with
        | nil => simp at hsuffix
        | cons d cs =>
          cases hrest
          exact hopen cs rfl rfl
      rw [List.cons_append, blockExtent_cons hopen', ih hsuffix]

/-- A block comment has its end or takes everything. -/
theorem blockExtent_closed_or_all (cs : List Char) :
    ['*', '/'] <:+ cs.take (blockExtent cs) ∨ blockExtent cs = cs.length := by
  fun_induction blockExtent cs with
  | case1 => exact Or.inr rfl
  | case2 cs => exact Or.inl (List.suffix_refl ['*', '/'])
  | case3 c cs _ ih =>
    rcases ih with hclosed | hall
    · left
      rw [List.take_succ_cons]
      exact hclosed.trans (List.suffix_cons c _)
    · right
      rw [hall, List.length_cons]

-- ================================================================ escapes

/-- A backslash takes the next character along, unless that is a line feed
or missing. Any other character stands for itself. -/
def StandsAlone (c : Char) (cs : List Char) : Prop :=
  c = '\\' → ∀ d ∈ cs.head?, d = '\n'

/-- What is no escape stands alone. -/
theorem standsAlone_of_ne {c : Char} {cs : List Char}
    (h : ∀ d rest, c = '\\' → cs = d :: rest → False) :
    StandsAlone c cs := by
  intro hc d hd
  obtain ⟨rest, hrest⟩ := List.head?_eq_some_iff.1 hd
  exact (h d rest hc hrest).elim

/-- What follows a line feed does not matter to an escape before it. -/
theorem StandsAlone.append_lineFeed {c : Char} {cs : List Char} (ys : List Char)
    (h : StandsAlone c cs) : StandsAlone c (cs ++ '\n' :: ys) := by
  intro hc d hd
  cases cs with
  | nil => simpa using hd.symm
  | cons e cs => exact h hc d hd

-- ================================================================ strings

/-- A string takes a character that stands alone and closes nothing. -/
theorem stringExtent_cons {c : Char} {cs : List Char} (hfeed : c ≠ '\n')
    (hc : StandsAlone c cs) (hquote : c ≠ '"') :
    stringExtent (c :: cs) = stringExtent cs + 1 := by
  by_cases hb : c = '\\'
  · subst hb
    cases cs with
    | nil => rfl
    | cons d cs =>
      obtain rfl : d = '\n' := hc rfl d rfl
      rfl
  · exact stringExtent.eq_5 c cs hfeed (fun d rest h => absurd h hb) hquote

/-- A string is within the line. -/
theorem withinLine_stringExtent : WithinLine stringExtent where
  le_length cs := by
    fun_induction stringExtent cs with
    | case1 => exact Nat.le_refl 0
    | case2 cs => exact Nat.zero_le _
    -- a backslash before a line feed is taken alone
    | case3 cs => simp only [List.length_cons]; omega
    -- an escape takes two characters
    | case4 c cs _ ih => simp only [List.length_cons]; omega
    -- the closing mark
    | case5 cs => simp only [List.length_cons]; omega
    | case6 c cs _ _ _ ih => simp only [List.length_cons]; omega
  cut xs ys h := by
    fun_induction stringExtent xs with
    | case1 => exact (Nat.le_zero.1 h).symm
    | case2 cs => rfl
    | case3 cs => rfl
    | case4 c cs hc ih =>
      simp only [List.cons_append, stringExtent, if_neg hc,
        List.length_cons] at h ⊢
      rw [ih (by omega)]
    | case5 cs => rfl
    | case6 c cs hfeed hescape hquote ih =>
      have hc : StandsAlone c (cs ++ ys) := by
        cases cs with
        | cons e cs => exact fun h d hd => (standsAlone_of_ne hescape) h d hd
        | nil =>
          -- a backslash cut off from the character it takes along does
          -- not fit
          rintro rfl d hd
          obtain ⟨rest, rfl⟩ := List.head?_eq_some_iff.1 hd
          by_contra hne
          simp [stringExtent, hne] at h
      have hstep := stringExtent_cons hfeed hc hquote
      rw [List.cons_append, hstep, List.length_cons] at h
      rw [List.cons_append, hstep, ih (by omega)]
  lineFeed xs ys := by
    fun_induction stringExtent xs with
    | case1 => rfl
    | case2 cs => rfl
    | case3 cs => rfl
    | case4 c cs hc ih =>
      simp only [List.cons_append, stringExtent, if_neg hc, ih]
    | case5 cs => rfl
    | case6 c cs hfeed hescape hquote ih =>
      have hc := (standsAlone_of_ne hescape).append_lineFeed ys
      rw [List.cons_append, stringExtent_cons hfeed hc hquote, ih]

-- ==================================================== regular expressions

/-- A cut through a word that starts with flag letters: all of `xs` are flag
letters, and the word goes on behind them. -/
def CutFlags (xs ys : List Char) : Prop :=
  xs ≠ [] ∧ (∀ c ∈ xs, isFlag c = true) ∧ ys.head?.any isWordChar = true

theorem eq_of_isFlag {c : Char} (h : isFlag c = true) :
    c = 'd' ∨ c = 'F' ∨ c = 'g' ∨ c = 'i' ∨ c = 'm' := by
  simpa [isFlag] using h

/-- Flag letters go on with a word. -/
theorem isWordChar_of_isFlag {c : Char} (h : isFlag c = true) :
    isWordChar c = true := by
  rcases eq_of_isFlag h with rfl | rfl | rfl | rfl | rfl
  all_goals rfl

/-- A run of flag letters counts unless a word goes on behind it. -/
theorem flagExtent_eq (cs : List Char) :
    flagExtent cs
      = if (cs.dropWhile isFlag).head?.any isWordChar then 0
        else (cs.takeWhile isFlag).length := by
  simp only [flagExtent, drop_length_takeWhile]

theorem flagExtent_le_length (cs : List Char) :
    flagExtent cs ≤ cs.length := by
  rw [flagExtent_eq]
  split
  · exact Nat.zero_le _
  · exact (local_run isFlag).le_length cs

/-- A run of flag letters that has its end does not depend on what
follows. -/
theorem flagExtent_append_of_ended {xs : List Char} (zs : List Char)
    (h : ¬ ∀ c ∈ xs, isFlag c = true) :
    flagExtent (xs ++ zs) = flagExtent xs := by
  have hne : xs.dropWhile isFlag ≠ [] :=
    fun hnil => h (List.dropWhile_eq_nil_iff.1 hnil)
  have hlen : (xs.takeWhile isFlag).length ≠ xs.length := by
    have := congrArg List.length (xs.takeWhile_append_dropWhile (p := isFlag))
    rw [List.length_append] at this
    have := List.length_pos_iff.2 hne
    omega
  obtain ⟨d, ds, hd⟩ := List.exists_cons_of_ne_nil hne
  have hdrop : (xs ++ zs).dropWhile isFlag = d :: (ds ++ zs) := by
    rw [List.dropWhile_append, hd]
    rfl
  rw [flagExtent_eq, flagExtent_eq, List.takeWhile_append, if_neg hlen,
    hdrop, hd]
  rfl

/-- A run of flag letters that has no end yet goes on in what follows. -/
theorem flagExtent_append_of_all {xs : List Char} (zs : List Char)
    (h : ∀ c ∈ xs, isFlag c = true) :
    flagExtent (xs ++ zs)
      = if (zs.dropWhile isFlag).head?.any isWordChar then 0
        else xs.length + (zs.takeWhile isFlag).length := by
  rw [flagExtent_eq, List.takeWhile_append_of_pos h,
    List.dropWhile_append_of_pos h, List.length_append]

/-- White space ends a run of flags. -/
theorem endsAt_flagExtent {g : Char} (hg : isBlank g = true) :
    EndsAt g flagExtent := by
  intro xs ys
  -- a run of flags that the text ends in ends at `g` instead
  by_cases h : ∀ c ∈ xs, isFlag c = true
  · have hword := isWordChar_of_isBlank hg
    have hflag : isFlag g = false := by
      by_contra hflag
      rw [isWordChar_of_isFlag (Bool.not_eq_false _ ▸ hflag)] at hword
      cases hword
    have hend := flagExtent_append_of_all [] h
    rw [List.append_nil] at hend
    rw [flagExtent_append_of_all _ h, hend]
    simp [hflag, hword]
  · exact flagExtent_append_of_ended _ h

/-- A run of flags is kept by a cut behind it, unless it was none because of
what is cut off. -/
theorem flagExtent_cut (xs ys : List Char)
    (h : flagExtent (xs ++ ys) ≤ xs.length) :
    flagExtent xs = flagExtent (xs ++ ys)
      ∨ (CutFlags xs ys ∧ flagExtent (xs ++ ys) = 0
        ∧ flagExtent xs = xs.length) := by
  by_cases hall : ∀ c ∈ xs, isFlag c = true
  case neg => exact Or.inl (flagExtent_append_of_ended ys hall).symm
  have hxs : flagExtent xs = xs.length := by
    have := flagExtent_append_of_all [] hall
    simpa using this
  rw [flagExtent_append_of_all ys hall] at h ⊢
  split at h
  -- the letters are the start of a longer word, and no flags unless the
  -- word is cut
  next hword =>
    rw [if_pos hword, hxs]
    cases xs with
    | nil => exact Or.inl rfl
    | cons x xs =>
      refine Or.inr ⟨⟨List.cons_ne_nil x xs, hall, ?_⟩, rfl, rfl⟩
      cases ys with
      | nil => cases hword
      | cons y ys =>
        by_cases hy : isFlag y = true
        · exact isWordChar_of_isFlag hy
        · rwa [List.dropWhile_cons_of_neg hy] at hword
  next hword =>
    rw [if_neg hword]
    left
    omega

/-- A regular expression takes a character that stands alone and closes
nothing. -/
theorem regexExtent?_cons {c : Char} {cs : List Char} (hfeed : c ≠ '\n')
    (hc : StandsAlone c cs) (hslash : c ≠ '/') :
    regexExtent? (c :: cs) = (regexExtent? cs).map (· + 1) := by
  by_cases hb : c = '\\'
  · subst hb
    cases cs with
    | nil => rfl
    | cons d cs =>
      obtain rfl : d = '\n' := hc rfl d rfl
      rfl
  · exact regexExtent?.eq_5 c cs hfeed (fun d rest h => absurd h hb) hslash

/-- A regular expression has its closing slash, and stays inside the text. -/
theorem regexExtent?_bounds {cs : List Char} {n : Nat}
    (h : regexExtent? cs = some n) : 0 < n ∧ n ≤ cs.length := by
  fun_induction regexExtent? cs generalizing n with
  | case1 => cases h
  | case2 cs => cases h
  | case3 cs => cases h
  | case4 c cs _ ih =>
    obtain ⟨m, hm, rfl⟩ := Option.map_eq_some_iff.1 h
    have := ih hm
    simp only [List.length_cons]
    omega
  | case5 cs =>
    cases h
    have := flagExtent_le_length cs
    simp only [List.length_cons]
    omega
  | case6 c cs _ _ _ ih =>
    obtain ⟨m, hm, rfl⟩ := Option.map_eq_some_iff.1 h
    have := ih hm
    simp only [List.length_cons]
    omega

/-- Only a closing slash ends a regular expression. -/
theorem two_le_of_regexExtent? {c : Char} {cs : List Char} {n : Nat}
    (hslash : c ≠ '/') (h : regexExtent? (c :: cs) = some n) : 2 ≤ n := by
  have hfeed : c ≠ '\n' := by
    rintro rfl
    cases h
  by_cases hc : StandsAlone c cs
  · rw [regexExtent?_cons hfeed hc hslash] at h
    obtain ⟨m, hm, rfl⟩ := Option.map_eq_some_iff.1 h
    have := (regexExtent?_bounds hm).1
    omega
  -- an escape takes two characters, and a closing slash comes behind them
  · obtain ⟨rfl, d, hd, hne⟩ : c = '\\' ∧ ∃ d ∈ cs.head?, d ≠ '\n' := by
      simpa [StandsAlone] using hc
    obtain ⟨rest, rfl⟩ := List.head?_eq_some_iff.1 hd
    simp only [regexExtent?, if_neg hne] at h
    obtain ⟨m, -, rfl⟩ := Option.map_eq_some_iff.1 h
    omega

/-- A regular expression is closed before the line feed, or not at all. -/
theorem regexExtent?_lineFeed (xs ys : List Char) :
    regexExtent? (xs ++ '\n' :: ys) = regexExtent? xs := by
  fun_induction regexExtent? xs with
  | case1 => rfl
  | case2 cs => rfl
  | case3 cs => rfl
  | case4 c cs hc ih =>
    simp only [List.cons_append, regexExtent?, if_neg hc, ih]
  | case5 cs =>
    simp only [List.cons_append, regexExtent?,
      endsAt_flagExtent isBlank_lineFeed cs ys]
  | case6 c cs hfeed hescape hslash ih =>
    have hc := (standsAlone_of_ne hescape).append_lineFeed ys
    rw [List.cons_append, regexExtent?_cons hfeed hc hslash, ih]

/-- No closing slash in the text, none in what a cut leaves of it. -/
theorem regexExtent?_cut_none {xs : List Char} (ys : List Char)
    (h : regexExtent? (xs ++ ys) = none) : regexExtent? xs = none := by
  fun_induction regexExtent? xs with
  | case1 => rfl
  | case2 cs => rfl
  | case3 cs => rfl
  | case4 c cs hc ih =>
    simp only [List.cons_append, regexExtent?, if_neg hc,
      Option.map_eq_none_iff] at h
    rw [ih h, Option.map_none]
  | case5 cs => cases h
  | case6 c cs hfeed hescape hslash ih =>
    cases cs with
    | nil => rfl
    | cons d cs =>
      have hc : StandsAlone c (d :: cs ++ ys) :=
        fun hb e he => standsAlone_of_ne hescape hb e he
      rw [List.cons_append, regexExtent?_cons hfeed hc hslash,
        Option.map_eq_none_iff] at h
      rw [ih h, Option.map_none]

/-- A regular expression is kept by a cut behind it, unless the cut turns
letters behind it into flags. -/
theorem regexExtent?_cut {xs ys : List Char} {n : Nat}
    (h : regexExtent? (xs ++ ys) = some n) (hn : n ≤ xs.length) :
    regexExtent? xs = some n
      ∨ (CutFlags (xs.drop n) ys ∧ regexExtent? xs = some xs.length) := by
  fun_induction regexExtent? xs generalizing n with
  | case1 =>
    have := (regexExtent?_bounds h).1
    simp only [List.length_nil] at hn
    omega
  | case2 cs => cases h
  | case3 cs => cases h
  | case4 c cs hc ih =>
    simp only [List.cons_append, regexExtent?, if_neg hc] at h
    obtain ⟨m, hm, rfl⟩ := Option.map_eq_some_iff.1 h
    simp only [List.length_cons] at hn ⊢
    rcases ih hm (by omega) with heq | ⟨hcut, heq⟩
    · exact Or.inl (by rw [heq, Option.map_some])
    · exact Or.inr ⟨hcut, by rw [heq, Option.map_some]⟩
  | case5 cs =>
    simp only [List.cons_append, regexExtent?, Option.some.injEq] at h
    -- this is the closing slash, so the cut goes through the flags
    subst h
    simp only [List.length_cons] at hn ⊢
    rcases flagExtent_cut cs ys (by omega) with heq | ⟨hcut, hzero, heq⟩
    · exact Or.inl (by rw [heq])
    · rw [hzero]
      exact Or.inr ⟨hcut, by rw [heq]⟩
  | case6 c cs hfeed hescape hslash ih =>
    cases cs with
    | nil =>
      -- a closing slash behind the cut does not fit
      have := two_le_of_regexExtent? hslash h
      simp only [List.length_cons, List.length_nil] at hn
      omega
    | cons d cs =>
      have hc : StandsAlone c (d :: cs ++ ys) :=
        fun hb e he => standsAlone_of_ne hescape hb e he
      rw [List.cons_append, regexExtent?_cons hfeed hc hslash] at h
      obtain ⟨m, hm, rfl⟩ := Option.map_eq_some_iff.1 h
      rw [List.length_cons] at hn ⊢
      rcases ih hm (by omega) with heq | ⟨hcut, heq⟩
      · exact Or.inl (by rw [heq, Option.map_some])
      · exact Or.inr ⟨hcut, by rw [heq, Option.map_some]⟩

-- ================================================================ numbers

/-- One extent after another ends where the second one ends. -/
theorem EndsAt.andThen {g : Char} {E F : List Char → Nat} (hE : Local E)
    (hEg : EndsAt g E) (hFg : EndsAt g F) :
    EndsAt g fun cs => E cs + F (cs.drop (E cs)) := by
  intro xs ys
  have hle := hE.le_length xs
  simp only [hEg xs ys, List.drop_append_of_le_length hle,
    hFg (xs.drop (E xs)) ys]

/-- One extent after another. -/
theorem WithinLine.andThen {E F : List Char → Nat} (hE : WithinLine E)
    (hF : WithinLine F) : WithinLine fun cs => E cs + F (cs.drop (E cs)) where
  le_length cs := by
    have h₁ := hE.le_length cs
    have h₂ := hF.le_length (cs.drop (E cs))
    rw [List.length_drop] at h₂
    omega
  cut xs ys h := by
    have hcut := hE.cut xs ys (by omega)
    have hle := hE.le_length xs
    simp only [← hcut, List.drop_append_of_le_length hle] at h ⊢
    rw [hF.cut (xs.drop (E xs)) ys (by rw [List.length_drop]; omega)]
  lineFeed := EndsAt.andThen hE.toLocal hE.lineFeed hF.lineFeed

/-- The point of a number and the digits behind it, if there are any. -/
def fractionExtent : List Char → Nat
  | '.' :: cs => if digitExtent cs = 0 then 0 else digitExtent cs + 1
  | _ => 0

/-- A number is digits and a fraction. -/
theorem numberExtent_eq (cs : List Char) :
    numberExtent cs
      = digitExtent cs + fractionExtent (cs.drop (digitExtent cs)) := by
  unfold numberExtent
  dsimp only
  split
  next rest hrest =>
    rw [hrest, fractionExtent]
    cases digitExtent rest with
    | zero => rfl
    | succ n => simp only [Nat.succ_ne_zero, if_false]; omega
  next hrest => rw [fractionExtent.eq_2 _ hrest, Nat.add_zero]

theorem endsAt_fractionExtent {g : Char} (hg : isBlank g = true) :
    EndsAt g fractionExtent := by
  intro xs ys
  cases xs with
  | nil =>
    have hpoint : g ≠ '.' := ne_of_isBlank hg (by decide)
    simp [fractionExtent, hpoint]
  | cons c xs =>
    by_cases hc : c = '.'
    · subst hc
      simp only [List.cons_append, fractionExtent,
        endsAt_digitExtent hg xs ys]
    · simp [fractionExtent, hc]

theorem withinLine_fractionExtent : WithinLine fractionExtent where
  le_length cs := by
    unfold fractionExtent
    split
    next rest =>
      have := withinLine_digitExtent.le_length rest
      rw [List.length_cons]
      split <;> omega
    next => exact Nat.zero_le _
  cut xs ys h := by
    cases xs with
    | nil => exact (Nat.le_zero.1 h).symm
    | cons c xs =>
      by_cases hc : c = '.'
      · subst hc
        simp only [List.cons_append, fractionExtent, List.length_cons] at h ⊢
        -- a point without a digit behind it is not taken, so both fit
        have hfits : digitExtent (xs ++ ys) ≤ xs.length := by
          split at h <;> omega
        rw [withinLine_digitExtent.cut xs ys hfits]
      · simp [fractionExtent, hc]
  lineFeed := endsAt_fractionExtent isBlank_lineFeed

/-- A number is within the line. -/
theorem withinLine_numberExtent : WithinLine numberExtent := by
  rw [funext numberExtent_eq]
  exact withinLine_digitExtent.andThen withinLine_fractionExtent

/-- White space ends a number. -/
theorem endsAt_numberExtent {g : Char} (hg : isBlank g = true) :
    EndsAt g numberExtent := by
  rw [funext numberExtent_eq]
  exact EndsAt.andThen withinLine_digitExtent.toLocal (endsAt_digitExtent hg)
    (endsAt_fractionExtent hg)

-- ================================================================== words

/-- A colon or a point joins two words into one. -/
def isJoint (c : Char) : Bool := c = ':' || c = '.'

/-- A word takes a word character. -/
theorem wordExtent_cons {c : Char} {cs : List Char}
    (hc : isWordChar c = true) : wordExtent (c :: cs) = wordExtent cs + 1 := by
  cases cs <;> simp [wordExtent, hc]

/-- A word takes a joint with the word character behind it. -/
theorem wordExtent_joint {c d : Char} {cs : List Char}
    (hc : isWordChar c = false) (hjoint : isJoint c = true)
    (hd : isWordChar d = true) :
    wordExtent (c :: d :: cs) = wordExtent cs + 2 := by
  simp [wordExtent, hc, hd, show (c = ':' || c = '.') = true from hjoint]

/-- A word stops at any other character. -/
theorem wordExtent_stop {c : Char} {cs : List Char}
    (hc : isWordChar c = false)
    (h : isJoint c = true → cs.head?.any isWordChar = false) :
    wordExtent (c :: cs) = 0 := by
  cases cs with
  | nil => simp [wordExtent, hc]
  | cons d cs =>
    by_cases hjoint : isJoint c = true
    · simp [wordExtent, hc, show isWordChar d = false from h hjoint]
    · simp [wordExtent, hc, show ¬ (c = ':' || c = '.') = true from hjoint]

/-- A word ends before a character that neither continues words nor joins
them. -/
theorem endsAt_wordExtent_of_stop {g : Char} (hword : isWordChar g = false)
    (hjoint : isJoint g = false) : EndsAt g wordExtent := by
  intro xs ys
  fun_induction wordExtent xs with
  | case1 => exact wordExtent_stop hword fun h => by rw [hjoint] at h; cases h
  | case2 c cs hc ih => rw [List.cons_append, wordExtent_cons hc, ih]
  -- a joint at the end, which `g` does not go on behind
  | case3 c hc hjoint =>
    exact wordExtent_stop (by simpa using hc) fun _ => hword
  -- a joint and the word character behind it
  | case4 c hc hjoint d cs hd ih =>
    rw [List.cons_append, List.cons_append,
      wordExtent_joint (by simpa using hc) hjoint hd, ih]
  | case5 c hc hjoint d cs hd =>
    exact wordExtent_stop (by simpa using hc) fun _ => by simpa using hd
  | case6 c cs hc hjoint =>
    exact wordExtent_stop (by simpa using hc) fun h => absurd h hjoint

theorem endsAt_wordExtent {g : Char} (hg : isBlank g = true) :
    EndsAt g wordExtent := by
  refine endsAt_wordExtent_of_stop (isWordChar_of_isBlank hg) ?_
  simp [isJoint, ne_of_isBlank hg (show isBlank ':' = false by decide),
    ne_of_isBlank hg (show isBlank '.' = false by decide)]

/-- A word is within the line. -/
theorem withinLine_wordExtent : WithinLine wordExtent where
  le_length cs := by
    fun_induction wordExtent cs with
    | case1 => exact Nat.le_refl 0
    | case2 c cs _ ih => simp only [List.length_cons]; omega
    | case3 => exact Nat.zero_le _
    | case4 c _ _ d cs _ ih => simp only [List.length_cons]; omega
    | case5 => exact Nat.zero_le _
    | case6 => exact Nat.zero_le _
  cut xs ys h := by
    fun_induction wordExtent xs with
    | case1 => exact (Nat.le_zero.1 h).symm
    | case2 c cs hc ih =>
      rw [List.cons_append, wordExtent_cons hc, List.length_cons] at h
      rw [List.cons_append, wordExtent_cons hc, ih (by omega)]
    | case3 c hc hjoint =>
      refine (wordExtent_stop (by simpa using hc) fun _ => ?_).symm
      cases ys with
      | nil => rfl
      | cons d ys =>
        -- a joint cut off from the word character behind it does not fit
        by_contra hd
        have htwo : wordExtent ([c] ++ d :: ys) = wordExtent ys + 2 :=
          wordExtent_joint (by simpa using hc) hjoint
            (Bool.not_eq_false _ ▸ hd)
        rw [htwo, List.length_singleton] at h
        omega
    | case4 c hc hjoint d cs hd ih =>
      have hstep : ∀ zs, wordExtent (c :: d :: zs) = wordExtent zs + 2 :=
        fun zs => wordExtent_joint (by simpa using hc) hjoint hd
      simp only [List.cons_append, hstep, List.length_cons] at h ⊢
      rw [ih (by omega)]
    | case5 c hc hjoint d cs hd =>
      refine (wordExtent_stop (by simpa using hc) fun _ => ?_).symm
      simpa using hd
    | case6 c cs hc hjoint =>
      exact (wordExtent_stop (by simpa using hc) fun h => absurd h hjoint).symm
  lineFeed := endsAt_wordExtent isBlank_lineFeed

/-- A word takes all word characters along that start the text. -/
theorem wordExtent_append_of_all {xs : List Char} (ys : List Char)
    (h : ∀ c ∈ xs, isWordChar c = true) :
    wordExtent (xs ++ ys) = xs.length + wordExtent ys := by
  induction xs with
  | nil => exact (Nat.zero_add _).symm
  | cons c xs ih =>
    have hc := h c List.mem_cons_self
    have hxs := ih fun d hd => h d (List.mem_cons_of_mem c hd)
    rw [List.cons_append, wordExtent_cons hc, hxs, List.length_cons]
    omega

-- ============================================================ punctuation

/-- A text without a character starts a text if it starts what comes before that
character. -/
theorem prefix_append_cons_iff {p xs ys : List Char} {g : Char} (hg : g ∉ p) :
    p <+: xs ++ g :: ys ↔ p <+: xs := by
  refine ⟨fun h => ?_, fun h => h.trans (List.prefix_append xs _)⟩
  rcases List.prefix_or_prefix_of_prefix h (List.prefix_append xs _)
    with hpx | ⟨t, rfl⟩
  · exact hpx
  · cases t with
    | nil => exact (List.append_nil xs).symm ▸ List.prefix_refl xs
    | cons d t =>
      -- a text that reaches further has `g` in it
      have hd := (List.prefix_append_right_inj xs).1 h
      obtain ⟨rfl, -⟩ := List.cons_prefix_cons.1 hd
      exact absurd (List.mem_append_right xs List.mem_cons_self) hg

/-- Compound operators hold no white space and are at least two characters
long. -/
theorem compound_spec {op : String} (h : op ∈ Operator.compound) :
    (∀ c ∈ op.toList, isBlank c = false) ∧ 2 ≤ op.toList.length := by
  have hall : ∀ op ∈ Operator.compound,
      op.toList.all (fun c => !isBlank c) = true ∧ 2 ≤ op.toList.length := by
    decide
  obtain ⟨hvisible, hlength⟩ := hall op h
  refine ⟨fun c hc => ?_, hlength⟩
  have hother := List.all_eq_true.1 hvisible c hc
  rwa [Bool.not_eq_true'] at hother

/-- The compound operator that starts a text. -/
def compoundAt? (cs : List Char) : Option String :=
  Operator.compound.find? (·.toList.isPrefixOf cs)

theorem punctExtent_eq (c : Char) (cs : List Char) :
    punctExtent c cs = ((compoundAt? (c :: cs)).map (·.length - 1)).getD 0 := by
  unfold punctExtent compoundAt?
  cases Operator.compound.find? _ <;> rfl

/-- No compound operator goes on over white space. -/
theorem compoundAt?_blank {g : Char} (hg : isBlank g = true)
    (xs ys : List Char) : compoundAt? (xs ++ g :: ys) = compoundAt? xs := by
  refine List.find?_congr fun op hop => ?_
  rw [Bool.eq_iff_iff, List.isPrefixOf_iff_prefix, List.isPrefixOf_iff_prefix]
  refine prefix_append_cons_iff fun hmem => ?_
  exact ne_of_isBlank hg ((compound_spec hop).1 g hmem) rfl

/-- What is found is a compound operator that starts the text. -/
theorem prefix_of_compoundAt? {cs : List Char} {op : String}
    (h : compoundAt? cs = some op) :
    op ∈ Operator.compound ∧ op.toList <+: cs := by
  unfold compoundAt? at h
  have hpre := List.find?_some h
  exact ⟨List.mem_of_find?_eq_some h, List.isPrefixOf_iff_prefix.1 hpre⟩

/-- The compound operator of a text is kept by a cut behind it. -/
theorem compoundAt?_cut {xs ys : List Char}
    (h : ∀ op ∈ compoundAt? (xs ++ ys), op.toList.length ≤ xs.length) :
    compoundAt? xs = compoundAt? (xs ++ ys) := by
  have hmono : ∀ op : String, op.toList.isPrefixOf xs = true →
      op.toList.isPrefixOf (xs ++ ys) = true := by
    intro op hop
    rw [List.isPrefixOf_iff_prefix] at hop ⊢
    exact hop.trans (List.prefix_append xs ys)
  cases hfull : compoundAt? (xs ++ ys) with
  | none =>
    refine List.find?_eq_none.2 fun op hop hpre => ?_
    exact List.find?_eq_none.1 hfull op hop (hmono op hpre)
  | some op =>
    obtain ⟨hpre, before, after, hlist, hbefore⟩ :=
      List.find?_eq_some_iff_append.1 hfull
    rw [List.isPrefixOf_iff_prefix] at hpre
    refine List.find?_eq_some_iff_append.2
      ⟨?_, before, after, hlist, fun p hp => ?_⟩
    · rw [List.isPrefixOf_iff_prefix]
      exact List.prefix_of_prefix_length_le hpre (List.prefix_append xs ys)
        (h op hfull)
    -- no operator before it in the list starts what is left either
    · have := hbefore p hp
      rw [Bool.not_eq_true'] at this ⊢
      by_contra hpre'
      rw [hmono p (Bool.not_eq_false _ ▸ hpre')] at this
      cases this

theorem endsAt_punctExtent {g : Char} (hg : isBlank g = true) (c : Char) :
    EndsAt g (punctExtent c) := by
  intro xs ys
  rw [punctExtent_eq, punctExtent_eq, ← List.cons_append,
    compoundAt?_blank hg]

/-- Punctuation is within the line. -/
theorem withinLine_punctExtent (c : Char) : WithinLine (punctExtent c) where
  le_length cs := by
    rw [punctExtent_eq]
    cases hop : compoundAt? (c :: cs) with
    | none => exact Nat.zero_le _
    | some op =>
      have hle := (prefix_of_compoundAt? hop).2.length_le
      rw [List.length_cons, String.length_toList] at hle
      simp only [Option.map_some, Option.getD_some]
      omega
  cut xs ys h := by
    rw [punctExtent_eq, punctExtent_eq, ← List.cons_append]
    rw [punctExtent_eq, ← List.cons_append] at h
    rw [compoundAt?_cut fun op hop => ?_]
    have hlen := (compound_spec (prefix_of_compoundAt? hop).1).2
    rw [hop, Option.map_some, Option.getD_some] at h
    rw [String.length_toList] at hlen ⊢
    rw [List.length_cons]
    omega
  lineFeed := endsAt_punctExtent isBlank_lineFeed c

end LogQuery.Fragment
