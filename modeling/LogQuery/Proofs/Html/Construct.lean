/-
Constructs and references with more text behind them.

What is found behind an angle bracket is found again if a tag follows the text
(`construct_tail`), and so is the content of a raw element. The tail adds no
end to a comment or a marked section that has one already: ends are told by the
characters behind each other (`behind?`), and none of them starts a tag.

A reference is the same if it is whole (`ofChars_tail`). A name or a number at
the very end of the text is not, since the reader can not know that it ends
there.
-/
import LogQuery.Html.Node
import LogQuery.Proofs.Html.Tag

namespace LogQuery.Html

open Text

variable {zs xs rest : List Char}

namespace Markup

-- ================================================== comments and declarations

/-- What follows the end of a comment that the text starts with. -/
def commentEnd? (cs : List Char) : Option (List Char) :=
  (behind? '-' cs).bind fun cs =>
    (behind? '-' cs).bind fun cs => behind? '>' (cs.dropWhile isBlank)

/-- A comment ends where the text starts with an end, or further on. -/
theorem afterComment?_cons (c : Char) (cs : List Char) :
    afterComment? (c :: cs)
      = (commentEnd? (c :: cs)).orElse fun _ => afterComment? cs := by
  conv_lhs => unfold afterComment?
  unfold commentEnd?
  dsimp only
  split
  · next rest hended =>
    split at hended
    · rw [behind?_cons_self, Option.bind_some, behind?_cons_self,
        Option.bind_some]
      split at hended
      · next h => cases hended; rw [h, behind?_cons_self]; rfl
      · cases hended
    · cases hended
  · next hended =>
    split at hended
    · rw [behind?_cons_self, Option.bind_some, behind?_cons_self,
        Option.bind_some]
      split at hended
      · cases hended
      · next h => rw [behind?_eq_none h]; rfl
    · next hdash =>
      -- a dash alone ends nothing, and neither does another character
      by_cases hc : c = '-'
      · subst hc
        simp only [behind?_cons_self, Option.bind_some,
          behind?_eq_none fun rest h => hdash rest rfl h]
        rfl
      · simp [behind?, hc]

/-- An end of a comment is one in front of the tail too, and the tail makes
none. -/
theorem commentEnd?_tail (hzs : Tail zs) (xs : List Char) :
    commentEnd? (xs ++ zs) = (commentEnd? xs).map (· ++ zs) := by
  have hdash : '-' ≠ '<' := by decide
  unfold commentEnd?
  rw [behind?_tail hzs hdash]
  cases behind? '-' xs with
  | none => rfl
  | some cs =>
    rw [Option.map_some, Option.bind_some, Option.bind_some,
      behind?_tail hzs hdash]
    cases behind? '-' cs with
    | none => rfl
    | some cs =>
      rw [Option.map_some, Option.bind_some, Option.bind_some,
        dropWhile_tail hzs (by decide), behind?_tail hzs (by decide)]

/-- A comment that is closed ends where it did. -/
theorem afterComment?_tail (hzs : Tail zs)
    (h : afterComment? xs = some rest) :
    afterComment? (xs ++ zs) = some (rest ++ zs) := by
  induction xs with
  | nil => cases h
  | cons c xs ih =>
    rw [afterComment?_cons] at h
    rw [List.cons_append, afterComment?_cons, ← List.cons_append,
      commentEnd?_tail hzs]
    cases hend : commentEnd? (c :: xs) with
    | some rest' => rw [hend] at h; cases h; rfl
    | none => rw [hend] at h; exact ih h

/-- What follows the end of a marked section that the text starts with. -/
def sectionClose? (double : Bool) (cs : List Char) : Option (List Char) :=
  (behind? ']' cs).bind fun cs =>
    let behindBlank? c (cs : List Char) := behind? c (cs.dropWhile isBlank)
    if double then (behindBlank? ']' cs).bind (behindBlank? '>')
    else behindBlank? '>' cs

/-- A marked section ends where the text starts with an end, or further on. -/
theorem sectionEnd?_cons (double : Bool) (c : Char) (cs : List Char) :
    sectionEnd? double (c :: cs)
      = match sectionClose? double (c :: cs) with
        | some rest => some ([], rest)
        | none => (sectionEnd? double cs).map fun x => (c :: x.1, x.2) := by
  conv_lhs => unfold sectionEnd?
  dsimp only
  by_cases hc : c = ']'
  · subst hc
    rw [if_neg (by simp), sectionClose?, behind?_cons_self]
    dsimp only [Option.bind_some]
    congr 1
    -- one bracket is enough, or a second one has to follow
    cases double with
    | false =>
      split
      · next h => rw [h]; rfl
      · next hdouble _ => cases hdouble
      · next hne _ => simp [behind?_eq_none (hne · rfl)]
    | true =>
      split
      · next hdouble _ => cases hdouble
      · next h =>
        rw [h, behind?_cons_self]
        split
        · next h => simp [h, behind?_cons_self]
        · next h => simp [behind?_eq_none h]
      · next hne => simp [behind?_eq_none (hne · rfl)]
  · simp [sectionClose?, behind?, hc]

/-- An end of a marked section is one in front of the tail too, and the tail
makes none. -/
theorem sectionClose?_tail (hzs : Tail zs) (double : Bool) (xs : List Char) :
    sectionClose? double (xs ++ zs)
      = (sectionClose? double xs).map (· ++ zs) := by
  have hbehind (c : Char) (hc : c ≠ '<') (cs : List Char) :
      behind? c ((cs ++ zs).dropWhile isBlank)
        = (behind? c (cs.dropWhile isBlank)).map (· ++ zs) := by
    rw [dropWhile_tail hzs (by decide), behind?_tail hzs hc]
  unfold sectionClose?
  rw [behind?_tail hzs (by decide)]
  -- both closing marks come before the tail
  cases behind? ']' xs with
  | none => rfl
  | some cs =>
    dsimp only [Option.map_some, Option.bind_some]
    cases double with
    | false => exact hbehind '>' (by decide) cs
    | true =>
      rw [if_pos rfl, if_pos rfl, hbehind ']' (by decide)]
      cases behind? ']' (cs.dropWhile isBlank) with
      | none => rfl
      | some cs => exact hbehind '>' (by decide) cs

/-- A marked section that is closed ends where it did. -/
theorem sectionEnd?_tail (hzs : Tail zs) {double : Bool} {before : List Char}
    (h : sectionEnd? double xs = some (before, rest)) :
    sectionEnd? double (xs ++ zs) = some (before, rest ++ zs) := by
  induction xs generalizing before with
  | nil => cases h
  | cons c xs ih =>
    rw [sectionEnd?_cons] at h
    rw [List.cons_append, sectionEnd?_cons, ← List.cons_append,
      sectionClose?_tail hzs]
    cases hclose : sectionClose? double (c :: xs) with
    | some rest' => rw [hclose] at h; cases h; rfl
    | none =>
      rw [hclose] at h
      obtain ⟨x, hx, heq⟩ := Option.map_eq_some_iff.1 h
      cases heq
      dsimp only [Option.map_none]
      rw [ih hx]
      rfl

/-- A marked section that is found is found again: its name ends before the
tail. -/
theorem markedSection_tail (hzs : Tail zs) {ms : List Markup}
    (h : markedSection xs = .found ms rest) :
    markedSection (xs ++ zs) = .found ms (rest ++ zs) := by
  unfold markedSection at h ⊢
  dsimp only at h ⊢
  rw [takeWhile_tail hzs (by decide)]
  have hword := length_takeWhile_le isSectionChar xs
  rw [List.drop_append_of_le_length hword, takeWhile_tail hzs (by decide)]
  have hblanks := add_length_takeWhile_le hword isBlank
  generalize xs.takeWhile isSectionChar = word at h hword hblanks ⊢
  generalize (xs.drop word.length).takeWhile isBlank = blanks at h hblanks ⊢
  split at h
  · cases h
  next hempty =>
  split at h
  · cases h
  next halpha =>
  split at h
  · cases h
  next hmore =>
  -- the name ends before the tail, so it is the same name
  have hne : xs ≠ [] := by simpa using hempty
  have hne' : xs ++ zs ≠ [] := List.append_ne_nil_of_left_ne_nil hne zs
  rw [if_neg (by simpa using hne'), List.head?_append_of_ne_nil xs hne,
    if_neg halpha, if_neg (by rw [List.length_append]; omega)]
  split at h
  · next hname =>
    rw [if_pos hname]
    cases hend : sectionEnd? (doubleSections.contains
        (lower (String.ofList word))) xs with
    | none => rw [hend] at h; cases h
    | some x =>
      rw [hend] at h
      -- the section ends before the tail too
      rw [sectionEnd?_tail hzs hend]
      cases h
      rfl
  · cases h

/-- A declaration ends at the first angle bracket, whatever follows. -/
theorem declaration_append {ms : List Markup}
    (h : declaration xs = .found ms rest) (zs : List Char) :
    declaration (xs ++ zs) = .found ms (rest ++ zs) := by
  obtain ⟨hrest, rfl⟩ := Construct.of_eq_found h
  obtain ⟨x, hx, rfl⟩ := Option.map_eq_some_iff.1 hrest
  rw [declaration, splitAt?_append hx]
  rfl

-- ================================================================ constructs

/-- Behind an exclamation mark stands a declaration unless it is a comment or
a marked section. -/
theorem construct_exclamation
    (hcomment : ∀ rest, xs = '-' :: '-' :: rest → False)
    (hsection : ∀ rest, xs = '[' :: rest → False) :
    construct ('!' :: xs) = declaration xs := by
  rw [construct]
  · exact fun rest h => hcomment rest h
  · exact fun rest h => hsection rest h

/-- What starts with no mark is a tag, or the angle bracket is text. -/
theorem construct_cons {c : Char} (hend : c ≠ '/') (hmark : c ≠ '!')
    (hquestion : c ≠ '?') :
    construct (c :: xs)
      = if c.isAlpha then startTag (c :: xs)
        else .found [text ['<']] (c :: xs) := by
  rw [construct]
  all_goals grind

/-- A construct that is found is found again in front of the tail. -/
theorem construct_tail (hzs : Tail zs) {ms : List Markup}
    (h : construct xs = .found ms rest) :
    construct (xs ++ zs) = .found ms (rest ++ zs) := by
  unfold construct at h
  split at h
  · exact endTag_tail hzs h
  · next after =>
    -- a comment
    obtain ⟨hafter, rfl⟩ := Construct.of_eq_found h
    change Construct.of divider (afterComment? (after ++ zs)) = _
    rw [afterComment?_tail hzs hafter]
    rfl
  · exact declaration_append h zs
  · exact markedSection_tail hzs h
  · next after hcomment hsection =>
    -- the tail does not make a comment or a section of a declaration
    rw [List.cons_append, construct_exclamation]
    · exact declaration_append h zs
    · intro rest' hafter
      obtain ⟨more, rfl, hmore⟩ := hzs.of_append_eq_cons (by decide) hafter
      obtain ⟨more, rfl, -⟩ := hzs.of_append_eq_cons (by decide) hmore
      exact hcomment more rfl
    · intro rest' hafter
      obtain ⟨more, rfl, -⟩ := hzs.of_append_eq_cons (by decide) hafter
      exact hsection more rfl
  · next c more hend _ hquestion _ hmark =>
    rw [List.cons_append, construct_cons hend hmark hquestion]
    -- a start tag, or a mark that starts nothing
    split at h
    · next halpha =>
      rw [if_pos halpha]
      exact startTag_tail hzs h
    · next halpha =>
      rw [if_neg halpha]
      cases h
      rfl
  · cases h

-- =============================================================== raw elements

theorem afterEndTag?_eq_none {c : Char} {cs : List Char}
    (h : ¬ (c = '<' ∧ cs.head? = some '/')) (name : String) :
    afterEndTag? name (c :: cs) = none := by
  rw [afterEndTag?]
  intro more heq
  obtain ⟨rfl, rfl⟩ := List.cons.inj heq
  exact h ⟨rfl, rfl⟩

/-- An end tag that starts before the tail does not reach into it. -/
theorem afterEndTag?_tail (hzs : Tail zs) (name : String) (c : Char)
    (cs : List Char) :
    afterEndTag? name (c :: (cs ++ zs))
      = (afterEndTag? name (c :: cs)).map (· ++ zs) := by
  by_cases h : c = '<' ∧ cs.head? = some '/'
  · obtain ⟨rfl, hcs⟩ := h
    obtain ⟨more, rfl⟩ := List.head?_eq_some_iff.1 hcs
    rw [List.cons_append, afterEndTag?, afterEndTag?, exactEndTag?_tail hzs]
    cases exactEndTag? more with
    | none => rfl
    | some x =>
      dsimp only [Option.map_some]
      split
      · rfl
      · rfl
  · rw [afterEndTag?_eq_none h, afterEndTag?_eq_none]
    · rfl
    · exact fun h' => h ⟨h'.1, hzs.head?_of_append (by decide) h'.2⟩

/-- The content of a raw element that is closed ends where it did. -/
theorem rawContent?_tail (hzs : Tail zs) {name : String}
    {content : List Char} (h : rawContent? name xs = some (content, rest)) :
    rawContent? name (xs ++ zs) = some (content, rest ++ zs) := by
  induction xs generalizing content with
  | nil => cases h
  | cons c xs ih =>
    rw [rawContent?] at h
    rw [List.cons_append, rawContent?, afterEndTag?_tail hzs]
    cases hafter : afterEndTag? name (c :: xs) with
    | some rest' => rw [hafter] at h; cases h; rfl
    | none =>
      rw [hafter] at h
      obtain ⟨x, hx, heq⟩ := Option.map_eq_some_iff.1 h
      cases heq
      dsimp only [Option.map_none]
      rw [ih hx]
      rfl

end Markup

-- ================================================================= references

namespace Reference

theorem afterEnd_of_ne {c : Char} (hc : c ≠ ';') (cs : List Char) :
    afterEnd (c :: cs) = c :: cs := by
  rw [afterEnd]
  intro more heq
  exact hc (List.cons.inj heq).1

/-- The semicolon that ends a reference is not in the tail. -/
theorem afterEnd_tail (hzs : Tail zs) (xs : List Char) :
    afterEnd (xs ++ zs) = afterEnd xs ++ zs := by
  cases xs with
  | nil =>
    obtain ⟨ys, rfl⟩ := hzs.exists_cons
    rfl
  | cons c xs =>
    by_cases hc : c = ';'
    · subst hc
      rfl
    · rw [List.cons_append, afterEnd_of_ne hc, afterEnd_of_ne hc]
      rfl

/-- The base of a number, the digits at its start and what follows them. -/
def numeral (cs : List Char) : Nat × List Char × List Char :=
  match cs with
  | x :: more =>
    if x = 'x' || x = 'X' then
      let ds := more.takeWhile isHexDigit
      (16, ds, more.drop ds.length)
    else
      let ds := cs.takeWhile Char.isDigit
      (10, ds, cs.drop ds.length)
  | [] => (10, [], [])

theorem digits?_eq (cs : List Char) :
    digits? cs
      = if (numeral cs).2.1.isEmpty || (numeral cs).2.2.head?.all isHexDigit
        then none else some (numeral cs) := rfl

/-- The digits of a number do not go on in the tail. -/
theorem numeral_tail (hzs : Tail zs) (hne : xs ≠ []) :
    numeral (xs ++ zs)
      = ((numeral xs).1, (numeral xs).2.1, (numeral xs).2.2 ++ zs) := by
  cases xs with
  | nil => exact absurd rfl hne
  | cons x xs =>
    rw [List.cons_append, numeral, numeral]
    split
    · dsimp only
      rw [takeWhile_tail hzs (by decide),
        List.drop_append_of_le_length (length_takeWhile_le _ _)]
    · dsimp only
      rw [← List.cons_append, takeWhile_tail hzs (by decide),
        List.drop_append_of_le_length (length_takeWhile_le _ _)]

/-- A semicolon is not one of the digits. -/
theorem numeral_rest_ne_nil (h : ';' ∈ xs) : (numeral xs).2.2 ≠ [] := by
  cases xs with
  | nil => cases h
  | cons x xs =>
    rw [numeral]
    split
    · next hx =>
      dsimp only
      rw [drop_length_takeWhile, Ne, List.dropWhile_eq_nil_iff]
      intro hall
      rcases List.mem_cons.1 h with rfl | h
      · exact absurd hx (by decide)
      · exact absurd (hall _ h) (by decide)
    · dsimp only
      rw [drop_length_takeWhile, Ne, List.dropWhile_eq_nil_iff]
      exact fun hall => absurd (hall _ h) (by decide)

/-- A number that is ended is the same in front of the tail. -/
theorem digits?_tail (hzs : Tail zs) {base : Nat} {ds : List Char}
    (h : digits? xs = some (base, ds, rest)) :
    digits? (xs ++ zs) = some (base, ds, rest ++ zs) := by
  have hne : xs ≠ [] := by
    rintro rfl
    cases h
  rw [digits?_eq] at h
  rw [digits?_eq, numeral_tail hzs hne]
  split at h
  · cases h
  · next hended =>
    rw [Option.some.inj h] at hended ⊢
    have hrest : rest ≠ [] := by
      rintro rfl
      simp at hended
    rw [List.head?_append_of_ne_nil rest hrest, if_neg hended]

/-- What is no number stays none if a semicolon ends it. -/
theorem digits?_tail_of_none (hzs : Tail zs) (h : digits? xs = none)
    (hend : ';' ∈ xs) : digits? (xs ++ zs) = none := by
  rw [digits?_eq] at h
  rw [digits?_eq, numeral_tail hzs (List.ne_nil_of_mem hend)]
  split at h
  · next hnone =>
    rw [List.head?_append_of_ne_nil _ (numeral_rest_ne_nil hend), if_pos hnone]
  · cases h

/-- A reference with more text behind it. -/
def append (zs : List Char) : Reference → Reference
  | found text rest => found text (rest ++ zs)
  | literal text rest => literal text (rest ++ zs)
  | tooLong digits => tooLong digits
  | unfinished => unfinished

/-- What stands after an ampersand does not end within a reference. A name
ends where a character follows that is not of a name. -/
def isWhole (cs : List Char) : Bool :=
  match ofChars cs with
  | found .. => !cs.all isNameChar
  | literal .. => true
  | tooLong _ => false
  | unfinished => false

/-- A reference by number is the same in front of the tail if it is
finished. -/
theorem ofNumber_tail (hzs : Tail zs) (h : ofNumber xs ≠ unfinished) :
    ofNumber (xs ++ zs) = (ofNumber xs).append zs := by
  rw [ofNumber] at h ⊢
  rw [ofNumber]
  cases hdigits : digits? xs with
  | some x =>
    obtain ⟨base, ds, rest⟩ := x
    rw [digits?_tail hzs hdigits]
    dsimp only
    cases Whole.ofChars base ds with
    | ok n => rw [afterEnd_tail hzs]; rfl
    | error fault => rfl
  | none =>
    rw [hdigits] at h
    dsimp only at h ⊢
    -- without a digit it matters whether the end mark follows
    by_cases hend : xs.contains ';' = true
    · have hmem : ';' ∈ xs := by simpa using hend
      rw [digits?_tail_of_none hzs hdigits hmem, if_pos hend,
        if_pos (by simp [hmem])]
      rfl
    · rw [if_neg hend] at h
      exact absurd rfl h

theorem name?_eq_none (halpha : ¬ xs.head?.any (·.isAlpha) = true) :
    name? xs = none :=
  if_pos (by simpa using halpha)

/-- The name up to the character that ends it. -/
theorem name?_of_ended (halpha : xs.head?.any (·.isAlpha) = true)
    (hended : xs.dropWhile isNameChar ≠ []) :
    name? xs = some (xs.takeWhile isNameChar, xs.dropWhile isNameChar) := by
  rw [name?, halpha, Bool.not_true, if_neg Bool.false_ne_true]
  dsimp only
  rw [drop_length_takeWhile]
  split
  · next h => exact absurd h hended
  · rfl

/-- A reference by name is the same in front of the tail if it is finished and
its name is ended. -/
theorem ofName_tail (hzs : Tail zs)
    (hended : xs.head?.any (·.isAlpha) = true → xs.dropWhile isNameChar ≠ [])
    (h : ofName xs ≠ unfinished) :
    ofName (xs ++ zs) = (ofName xs).append zs := by
  have hne : xs ≠ [] := by
    rintro rfl
    exact h rfl
  rw [ofName]
  conv_rhs => rw [ofName]
  by_cases halpha : xs.head?.any (·.isAlpha) = true
  · have hended := hended halpha
    have hended' : (xs ++ zs).dropWhile isNameChar ≠ [] := by
      rw [dropWhile_append_of_ended hended]
      exact List.append_ne_nil_of_left_ne_nil hended zs
    rw [name?_of_ended halpha hended, name?_of_ended _ hended']
    · dsimp only
      rw [takeWhile_append_of_ended hended, dropWhile_append_of_ended hended,
        afterEnd_tail hzs]
      rfl
    · rw [List.head?_append_of_ne_nil xs hne, halpha]
  -- no name starts here, and only the first character is looked at
  · have hempty : (xs ++ zs).isEmpty = xs.isEmpty := by
      simp [List.isEmpty_eq_false_iff.2 hne, hne]
    rw [name?_eq_none halpha, name?_eq_none, hempty,
      List.head?_append_of_ne_nil xs hne]
    · dsimp only
      split
      · rfl
      · rfl
    · rwa [List.head?_append_of_ne_nil xs hne]

theorem ofChars_of_head?_ne (h : xs.head? ≠ some '#') :
    ofChars xs = ofName xs := by
  rw [ofChars]
  rintro cs rfl
  exact h rfl

/-- A reference that is whole is the same in front of the tail. -/
theorem ofChars_tail (hzs : Tail zs) (h : isWhole xs = true) :
    ofChars (xs ++ zs) = (ofChars xs).append zs := by
  have hwhole : ofChars xs ≠ unfinished := by
    intro hunfinished
    rw [isWhole, hunfinished] at h
    cases h
  by_cases hhead : xs.head? = some '#'
  · obtain ⟨cs, rfl⟩ := List.head?_eq_some_iff.1 hhead
    exact ofNumber_tail hzs hwhole
  have hhead' : (xs ++ zs).head? ≠ some '#' :=
    fun h => hhead (hzs.head?_of_append (by decide) h)
  rw [ofChars_of_head?_ne hhead] at hwhole
  rw [ofChars_of_head?_ne hhead, ofChars_of_head?_ne hhead']
  refine ofName_tail hzs (fun halpha hnil => ?_) hwhole
  -- a name that goes on to the end of the text is not whole
  have hall : xs.all isNameChar = true := by
    simpa [List.dropWhile_eq_nil_iff] using hnil
  rw [isWhole, ofChars_of_head?_ne hhead, ofName] at h
  cases hname : name? xs with
  | some x =>
    rw [hname] at h
    simp [hall] at h
  | none =>
    rw [hname] at h
    simp [halpha] at h

/-- The tail leaves whole what is whole. -/
theorem isWhole_tail (hzs : Tail zs) (h : isWhole xs = true) :
    isWhole (xs ++ zs) = true := by
  rw [isWhole, ofChars_tail hzs h]
  rw [isWhole] at h
  cases hreference : ofChars xs with
  | found text rest =>
    have hended : (!xs.all isNameChar) = true := by rwa [hreference] at h
    rw [List.all_append, Bool.not_and, hended]
    rfl
  | literal text rest => rfl
  | tooLong digits => rw [hreference] at h; cases h
  | unfinished => rw [hreference] at h; cases h

end Reference

end LogQuery.Html
