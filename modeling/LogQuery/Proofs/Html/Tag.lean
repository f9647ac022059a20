/-
Tags with more text behind them.

A tag that is found is found again when another tag follows the text that it
was found in: the reader does not need what stands behind. There are two
reasons. Most runs of characters end at the angle bracket that starts the tail
(`takeWhile_tail`), or have ended before. And a quotation mark that is never
closed stays so, because the tail has none.
-/
import LogQuery.Html.Node
import LogQuery.Proofs.Text.Blank

namespace LogQuery.Html

open Text

-- ==================================================================== tails

/-- What follows starts a tag and holds no quotation marks. -/
structure Tail (zs : List Char) : Prop where
  starts : zs.head? = some '<'
  unquoted : ∀ c ∈ zs, c ≠ '\'' ∧ c ≠ '"'

instance (zs : List Char) : Decidable (Tail zs) :=
  decidable_of_iff (zs.head? = some '<' ∧ zs.all fun c => c ≠ '\'' ∧ c ≠ '"')
    ⟨fun h => ⟨h.1, by simpa using h.2⟩,
      fun h => ⟨h.starts, by simpa using h.unquoted⟩⟩

variable {zs xs rest : List Char} {p : Char → Bool}

theorem Tail.exists_cons (hzs : Tail zs) : ∃ ys, zs = '<' :: ys :=
  List.head?_eq_some_iff.1 hzs.starts

/-- Another character than an angle bracket stands before the tail. -/
theorem Tail.of_append_eq_cons (hzs : Tail zs) {c : Char} {ys : List Char}
    (hc : c ≠ '<') (h : xs ++ zs = c :: ys) :
    ∃ xs', xs = c :: xs' ∧ xs' ++ zs = ys := by
  cases xs with
  | nil =>
    have hhead : zs.head? = some c := congrArg List.head? h
    rw [hzs.starts] at hhead
    exact absurd (Option.some.inj hhead).symm hc
  | cons d xs =>
    obtain ⟨rfl, hys⟩ := List.cons.inj h
    exact ⟨xs, rfl, hys⟩

/-- A tail starts with its angle bracket, so any other first character is the
text's. -/
theorem Tail.head?_of_append (hzs : Tail zs) {c : Char} (hc : c ≠ '<')
    (h : (xs ++ zs).head? = some c) : xs.head? = some c := by
  obtain ⟨ys, hys⟩ := List.head?_eq_some_iff.1 h
  obtain ⟨xs', rfl, -⟩ := hzs.of_append_eq_cons hc hys
  rfl

-- ===================================================================== runs

section Runs

variable {α : Type} {p : α → Bool} {xs : List α}

theorem length_takeWhile_le (p : α → Bool) (xs : List α) :
    (xs.takeWhile p).length ≤ xs.length :=
  (List.takeWhile_sublist p).length_le

/-- A run has ended if it does not take the whole list. -/
theorem ended_iff :
    xs.dropWhile p ≠ [] ↔ (xs.takeWhile p).length < xs.length := by
  have hsum := congrArg List.length (xs.takeWhile_append_dropWhile (p := p))
  rw [List.length_append] at hsum
  rw [← List.length_pos_iff]
  omega

/-- A run from an offset on ends within the list. -/
theorem add_length_takeWhile_le {n : Nat} (hn : n ≤ xs.length)
    (p : α → Bool) : n + ((xs.drop n).takeWhile p).length ≤ xs.length := by
  have hle := length_takeWhile_le p (xs.drop n)
  rw [List.length_drop] at hle
  omega

/-- A run that has ended is the same run whatever follows. -/
theorem takeWhile_append_of_ended (h : xs.dropWhile p ≠ []) (zs : List α) :
    (xs ++ zs).takeWhile p = xs.takeWhile p := by
  induction xs with
  | nil => exact absurd rfl h
  | cons c xs ih =>
    cases hc : p c with
    | true =>
      rw [List.dropWhile_cons_of_pos hc] at h
      rw [List.cons_append, List.takeWhile_cons_of_pos hc,
        List.takeWhile_cons_of_pos hc, ih h]
    | false =>
      rw [List.cons_append, List.takeWhile_cons_of_neg (by simp [hc]),
        List.takeWhile_cons_of_neg (by simp [hc])]

/-- What follows a run that has ended is kept in front of more text. -/
theorem dropWhile_append_of_ended (h : xs.dropWhile p ≠ []) (zs : List α) :
    (xs ++ zs).dropWhile p = xs.dropWhile p ++ zs := by
  rw [List.dropWhile_append, if_neg (by simpa using h)]

end Runs

/-- A run of characters that are no angle bracket ends before the tail. -/
theorem takeWhile_tail (hzs : Tail zs) (hp : p '<' = false) (xs : List Char) :
    (xs ++ zs).takeWhile p = xs.takeWhile p := by
  obtain ⟨ys, rfl⟩ := hzs.exists_cons
  induction xs with
  | nil => exact List.takeWhile_cons_of_neg (by simp [hp])
  | cons c xs ih => rw [List.cons_append, List.takeWhile, List.takeWhile, ih]

/-- A run of a class without the angle bracket ends before the tail. -/
theorem dropWhile_tail (hzs : Tail zs) (hp : p '<' = false) (xs : List Char) :
    (xs ++ zs).dropWhile p = xs.dropWhile p ++ zs := by
  obtain ⟨ys, rfl⟩ := hzs.exists_cons
  rw [List.dropWhile_append]
  split
  · next h =>
    rw [List.isEmpty_iff.1 h, List.dropWhile_cons_of_neg (by simp [hp])]
    rfl
  · rfl

-- ============================================================= angle brackets

namespace Markup

theorem splitAt?_cons_self (c : Char) (xs : List Char) :
    splitAt? [c] (c :: xs) = some ([], xs) := by
  simp [splitAt?]

theorem splitAt?_cons_of_ne {c d : Char} (h : d ≠ c) (xs : List Char) :
    splitAt? [c] (d :: xs)
      = (splitAt? [c] xs).map fun x => (d :: x.1, x.2) := by
  simp [splitAt?, h.symm]

/-- A text can be split at a character in it. -/
theorem splitAt?_ne_none {c : Char} (h : c ∈ xs) : splitAt? [c] xs ≠ none := by
  induction xs with
  | nil => cases h
  | cons d xs ih =>
    by_cases hd : d = c
    · rw [hd, splitAt?_cons_self]
      exact Option.some_ne_none _
    · rw [splitAt?_cons_of_ne hd, Ne, Option.map_eq_none_iff]
      exact ih (List.mem_of_ne_of_mem (Ne.symm hd) h)

/-- What is split at a character is split there also if more follows. -/
theorem splitAt?_append {c : Char} {before : List Char}
    (h : splitAt? [c] xs = some (before, rest)) (zs : List Char) :
    splitAt? [c] (xs ++ zs) = some (before, rest ++ zs) := by
  induction xs generalizing before with
  | nil => cases h
  | cons d xs ih =>
    by_cases hd : d = c
    · subst hd
      rw [splitAt?_cons_self] at h
      cases h
      exact splitAt?_cons_self d (rest ++ zs)
    · rw [splitAt?_cons_of_ne hd] at h
      obtain ⟨x, hx, heq⟩ := Option.map_eq_some_iff.1 h
      cases heq
      rw [List.cons_append, splitAt?_cons_of_ne hd, ih hx]
      rfl

-- ================================================================ start tags

/-- The gap in a tag is made up of white space and slashes, but for the slash
that closes the tag. -/
theorem tagGap_cons {c : Char} (h : ¬ (c = '/' ∧ xs.head? = some '>')) :
    tagGap (c :: xs) = if c = '/' || isBlank c then tagGap xs + 1 else 0 := by
  rw [tagGap]
  rintro rest rfl hxs
  exact h ⟨rfl, by rw [hxs]; rfl⟩

theorem tagGap_le_length (xs : List Char) : tagGap xs ≤ xs.length := by
  fun_induction tagGap xs with
  | case1 => exact Nat.le_refl 0
  | case2 => exact Nat.zero_le _
  | case3 c cs hclose hc ih => exact Nat.succ_le_succ ih
  | case4 => exact Nat.zero_le _

/-- The gap in a tag does not reach into the tail. -/
theorem tagGap_tail (hzs : Tail zs) (xs : List Char) :
    tagGap (xs ++ zs) = tagGap xs := by
  induction xs with
  | nil =>
    obtain ⟨ys, rfl⟩ := hzs.exists_cons
    rfl
  | cons c xs ih =>
    by_cases hclose : c = '/' ∧ xs.head? = some '>'
    · obtain ⟨rfl, hxs⟩ := hclose
      obtain ⟨rest, rfl⟩ := List.head?_eq_some_iff.1 hxs
      rfl
    · have hclose' : ¬ (c = '/' ∧ (xs ++ zs).head? = some '>') :=
        fun h => hclose ⟨h.1, hzs.head?_of_append (by decide) h.2⟩
      rw [List.cons_append, tagGap_cons hclose, tagGap_cons hclose', ih]

/-- The gap ends before the tail. -/
theorem drop_tagGap_tail (hzs : Tail zs) (xs : List Char) :
    (xs ++ zs).drop (tagGap (xs ++ zs)) = xs.drop (tagGap xs) ++ zs := by
  rw [tagGap_tail hzs, List.drop_append_of_le_length (tagGap_le_length xs)]

/-- The quotation mark that a value starts with. -/
def openQuote? (xs : List Char) : Option Char :=
  xs.head?.filter fun c => c = '\'' || c = '"'

/-- The length of a value in quotation marks, with the marks. -/
def quotedLength? (xs : List Char) : Option Nat :=
  (openQuote? xs).bind fun quote =>
    let value := (xs.drop 1).takeWhile (· ≠ quote)
    if value.length + 1 = xs.length then none else some (value.length + 2)

/-- The length of a value that stands behind `signs` equals signs and a gap,
all of them `before` characters of the text. -/
def valueLength (signs gap before : Nat) (cs : List Char) : Nat :=
  if signs = 0 then 0
  else
    match openQuote? (cs.drop before), quotedLength? (cs.drop before) with
    | none, _ => before + (bareValue (cs.drop before)).length
    | some _, some n => before + n
    | some _, none =>
      if gap ≠ 0 then before - 1
      else if signs = 1 then 0
      else before - 1 + (bareValue (cs.drop (before - 1))).length

/-- A value by the number of its signs and the gap behind them. -/
theorem attributeValue_eq (cs : List Char) :
    attributeValue cs
      = let skipped := (cs.takeWhile isBlank).length
        let signs := ((cs.drop skipped).takeWhile (· = '=')).length
        let gap := ((cs.drop (skipped + signs)).takeWhile isBlank).length
        valueLength signs gap (skipped + signs + gap) cs := rfl

/-- A tail opens no quotation mark. -/
theorem openQuote?_tail (hzs : Tail zs) (xs : List Char) :
    openQuote? (xs ++ zs) = openQuote? xs := by
  cases xs with
  | nil =>
    rw [List.nil_append, openQuote?, hzs.starts]
    rfl
  | cons c xs => rfl

/-- A quotation mark that is open starts the text. -/
theorem openQuote?_eq_some {c : Char} (h : openQuote? xs = some c) :
    (∃ ys, xs = c :: ys) ∧ (c = '\'' ∨ c = '"') := by
  obtain ⟨hhead, hquote⟩ := Option.filter_eq_some_iff.1 h
  exact ⟨List.head?_eq_some_iff.1 hhead, by simpa using hquote⟩

/-- A quotation mark that is not closed is not closed by the tail. -/
theorem quotedLength?_tail (hzs : Tail zs) (xs : List Char) :
    quotedLength? (xs ++ zs) = quotedLength? xs := by
  rw [quotedLength?, quotedLength?, openQuote?_tail hzs]
  cases hquote : openQuote? xs with
  | none => rfl
  | some quote =>
    obtain ⟨⟨ys, rfl⟩, hmark⟩ := openQuote?_eq_some hquote
    -- an open value takes the whole tail, which makes it no less open
    have hzs' : zs.takeWhile (· ≠ quote) = zs := by
      rw [List.takeWhile_eq_self_iff]
      intro c hc
      obtain ⟨hsingle, hdouble⟩ := hzs.unquoted c hc
      rcases hmark with rfl | rfl
      · simpa using hsingle
      · simpa using hdouble
    simp only [Option.bind_some, List.cons_append, List.drop_succ_cons,
      List.drop_zero, List.takeWhile_append, List.length_cons]
    split
    · next h =>
      rw [hzs', h, List.length_append]
      simp
    · next h =>
      have hle := length_takeWhile_le (· ≠ quote) ys
      simp only [List.length_append]
      rw [if_neg (by omega), if_neg (by omega)]

theorem bareValue_append_of_ended
    (h : (bareValue xs).length < xs.length) (zs : List Char) :
    bareValue (xs ++ zs) = bareValue xs :=
  takeWhile_append_of_ended (ended_iff.2 h) zs

/-- What stands behind the first characters of a text stands there also if
more follows. -/
theorem bareValue_drop_append {n : Nat} (hn : n ≤ xs.length)
    (h : n + (bareValue (xs.drop n)).length < xs.length) (zs : List Char) :
    bareValue ((xs ++ zs).drop n) = bareValue (xs.drop n) := by
  rw [List.drop_append_of_le_length hn]
  refine bareValue_append_of_ended ?_ zs
  rw [List.length_drop]
  omega

/-- A value that has ended is the same value whatever follows. -/
theorem valueLength_tail (hzs : Tail zs) {signs gap before : Nat}
    (hbefore : before ≤ xs.length)
    (h : valueLength signs gap before xs < xs.length) :
    valueLength signs gap before (xs ++ zs)
      = valueLength signs gap before xs := by
  unfold valueLength at h ⊢
  rw [List.drop_append_of_le_length hbefore, openQuote?_tail hzs,
    quotedLength?_tail hzs]
  by_cases hsigns : signs = 0
  · rw [if_pos hsigns, if_pos hsigns]
  rw [if_neg hsigns] at h ⊢
  rw [if_neg hsigns]
  cases hquote : openQuote? (xs.drop before) with
  | none =>
    rw [hquote] at h
    -- a bare value ends before the tail
    have hbare := bareValue_drop_append hbefore h zs
    rw [List.drop_append_of_le_length hbefore] at hbare
    simp only [hbare]
  | some quote =>
    rw [hquote] at h
    cases hquoted : quotedLength? (xs.drop before) with
    | some n => rfl
    | none =>
      rw [hquoted] at h
      dsimp only at h ⊢
      -- an open quotation mark is a bare value if it is close to its sign
      by_cases hgap : gap ≠ 0
      · rw [if_pos hgap, if_pos hgap]
      rw [if_neg hgap] at h ⊢
      rw [if_neg hgap]
      by_cases hone : signs = 1
      · rw [if_pos hone, if_pos hone]
      rw [if_neg hone] at h ⊢
      rw [if_neg hone, bareValue_drop_append (by omega) h]

/-- An attribute that has ended is the same attribute in front of the tail. -/
theorem attributeValue_tail (hzs : Tail zs)
    (h : attributeValue xs < xs.length) :
    attributeValue (xs ++ zs) = attributeValue xs := by
  have hblank : isBlank '<' = false := by decide
  have hsign : (fun c : Char => decide (c = '=')) '<' = false := by decide
  rw [attributeValue_eq] at h ⊢
  rw [attributeValue_eq]
  dsimp only at h ⊢
  -- the three runs before the value end in front of the tail, one by one
  rw [takeWhile_tail hzs hblank]
  have hskip := length_takeWhile_le isBlank xs
  generalize (xs.takeWhile isBlank).length = skipped at h hskip ⊢
  rw [List.drop_append_of_le_length hskip, takeWhile_tail hzs hsign]
  have hsigns := add_length_takeWhile_le hskip (· = '=')
  generalize ((xs.drop skipped).takeWhile (· = '=')).length = signs
    at h hsigns ⊢
  rw [List.drop_append_of_le_length hsigns, takeWhile_tail hzs hblank]
  exact valueLength_tail hzs (add_length_takeWhile_le hsigns isBlank) h

/-- What follows a part of a tag, and the last character of the part. -/
def afterPart (cs : List Char) : Char × List Char :=
  match cs with
  | [] => ('<', [])
  | c :: more =>
    let name := more.takeWhile fun c =>
      c ≠ '/' && c ≠ '=' && c ≠ '>' && !isBlank c
    let length := 1 + name.length + attributeValue (more.drop name.length)
    (((c :: more).take length).getLast?.getD c, (c :: more).drop length)

/-- A tag that does not end here goes on with one more part. -/
theorem tagRest_part {last c : Char} {more : List Char} {fuel : Nat}
    (hdrop : xs.drop (tagGap xs) = c :: more) (hc : c ≠ '>')
    (hclose : ¬ (c = '/' ∧ more.head? = some '>')) :
    tagRest last (fuel + 1) xs
      = if tagGap xs = 0 && !endsPart last then
          if c = '=' || c.isAlpha then .unfinished else .foreign (c :: more)
        else tagRest (afterPart (c :: more)).1 fuel (afterPart (c :: more)).2
    := by
  rw [tagRest, hdrop]
  dsimp only
  split
  · next heq => cases heq
  · next heq => exact absurd (List.cons.inj heq).1 hc
  · next heq =>
    obtain ⟨rfl, rfl⟩ := List.cons.inj heq
    exact absurd ⟨rfl, rfl⟩ hclose
  · next heq =>
    obtain ⟨rfl, rfl⟩ := List.cons.inj heq
    rfl

/-- A part that something follows in the tag is the same part whatever follows
the tag. -/
theorem afterPart_tail (hzs : Tail zs) (h : (afterPart xs).2 ≠ []) :
    afterPart (xs ++ zs) = ((afterPart xs).1, (afterPart xs).2 ++ zs) := by
  cases xs with
  | nil => exact absurd rfl h
  | cons c more =>
    rw [List.cons_append]
    unfold afterPart at h ⊢
    dsimp only at h ⊢
    rw [← List.length_pos_iff, List.length_drop, List.length_cons] at h
    rw [takeWhile_append_of_ended (ended_iff.2 (by omega))]
    generalize (more.takeWhile fun c =>
      c ≠ '/' && c ≠ '=' && c ≠ '>' && !isBlank c).length = n at h ⊢
    rw [List.drop_append_of_le_length (by omega), attributeValue_tail hzs
        (by rw [List.length_drop]; omega), ← List.cons_append,
      List.take_append_of_le_length (by rw [List.length_cons]; omega),
      List.drop_append_of_le_length (by rw [List.length_cons]; omega)]

/-- The rest of a tag with more text behind it. -/
def TagRest.append (zs : List Char) : TagRest → TagRest
  | .closed selfClosing rest => .closed selfClosing (rest ++ zs)
  | .unfinished => .unfinished
  | .foreign rest => .foreign (rest ++ zs)

/-- A tag that has ended ends there whatever follows. -/
theorem tagRest_tail (hzs : Tail zs) {last : Char} {fuel fuel' : Nat}
    (hfuel : fuel ≤ fuel') (h : tagRest last fuel xs ≠ .unfinished) :
    tagRest last fuel' (xs ++ zs) = (tagRest last fuel xs).append zs := by
  induction fuel generalizing last fuel' xs with
  | zero => exact absurd rfl h
  | succ fuel ih =>
    obtain ⟨fuel', rfl⟩ : ∃ n, fuel' = n + 1 := ⟨fuel' - 1, by omega⟩
    have hdrop' := drop_tagGap_tail hzs xs
    cases hdrop : xs.drop (tagGap xs) with
    | nil =>
      rw [tagRest, hdrop] at h
      exact absurd rfl h
    | cons c more =>
      rw [hdrop, List.cons_append] at hdrop'
      -- the tag ends here, ends as a closed one, or has one more part
      by_cases hc : c = '>'
      · subst hc
        rw [tagRest, tagRest, hdrop, hdrop']
        rfl
      by_cases hclose : c = '/' ∧ more.head? = some '>'
      · obtain ⟨rfl, hmore⟩ := hclose
        obtain ⟨rest, rfl⟩ := List.head?_eq_some_iff.1 hmore
        rw [tagRest, tagRest, hdrop, hdrop']
        rfl
      have hclose' : ¬ (c = '/' ∧ (more ++ zs).head? = some '>') :=
        fun h => hclose ⟨h.1, hzs.head?_of_append (by decide) h.2⟩
      rw [tagRest_part hdrop hc hclose] at h ⊢
      rw [tagRest_part hdrop' hc hclose', tagGap_tail hzs]
      split
      · split
        · rfl
        · rfl
      · next hpart =>
        rw [if_neg hpart] at h
        -- a part that the text ends in would leave the tag unfinished
        have hmore : (afterPart (c :: more)).2 ≠ [] := by
          intro hnil
          rw [hnil] at h
          cases fuel with
          | zero => exact h rfl
          | succ fuel => exact h rfl
        rw [← List.cons_append, afterPart_tail hzs hmore]
        exact ih (by omega) h

/-- A start tag that is found is found again in front of the tail. -/
theorem startTag_tail (hzs : Tail zs) {ms : List Markup}
    (h : startTag xs = .found ms rest) :
    startTag (xs ++ zs) = .found ms (rest ++ zs) := by
  unfold startTag at h ⊢
  dsimp only at h ⊢
  generalize htag : tagRest ((xs.takeWhile isTagChar).getLast?.getD '<')
    xs.length.succ (xs.drop (xs.takeWhile isTagChar).length) = tag at h
  have hunfinished : tag ≠ .unfinished := by
    rintro rfl
    cases h
  -- the name ends before the tail, or the tag would be unfinished
  have hended : (xs.takeWhile isTagChar).length < xs.length := by
    refine lt_of_le_of_ne (length_takeWhile_le _ xs) fun hall => ?_
    rw [hall, List.drop_length] at htag
    exact hunfinished htag.symm
  have hfuel : xs.length.succ ≤ (xs ++ zs).length.succ := by simp
  rw [← htag] at hunfinished
  rw [takeWhile_append_of_ended (ended_iff.2 hended),
    List.drop_append_of_le_length hended.le, tagRest_tail hzs hfuel hunfinished,
    htag]
  cases tag with
  | closed selfClosing rest' => cases h; rfl
  | unfinished => cases h
  | foreign rest' =>
    cases h
    -- a foreign tag is text up to where it ends
    have htake : (xs ++ zs).take ((xs ++ zs).length - (rest ++ zs).length)
        = xs.take (xs.length - rest.length) := by
      rw [List.length_append, List.length_append, Nat.add_sub_add_right,
        List.take_append_of_le_length (Nat.sub_le _ _)]
    simp only [TagRest.append, htake]

-- ================================================================== end tags

/-- What follows a character that the text starts with. -/
def behind? (c : Char) : List Char → Option (List Char)
  | [] => none
  | d :: cs => if d = c then some cs else none

theorem behind?_cons_self (c : Char) (cs : List Char) :
    behind? c (c :: cs) = some cs := if_pos rfl

theorem behind?_eq_none {c : Char} {cs : List Char}
    (h : ∀ rest, cs = c :: rest → False) : behind? c cs = none := by
  cases cs with
  | nil => rfl
  | cons d cs => exact if_neg fun hd => h cs (by rw [hd])

/-- A character other than the angle bracket is not the first of the tail. -/
theorem behind?_tail (hzs : Tail zs) {c : Char} (hc : c ≠ '<')
    (xs : List Char) : behind? c (xs ++ zs) = (behind? c xs).map (· ++ zs) := by
  cases xs with
  | nil =>
    obtain ⟨ys, rfl⟩ := hzs.exists_cons
    exact if_neg hc.symm
  | cons d xs =>
    rw [List.cons_append, behind?, behind?]
    split
    · rfl
    · rfl

theorem exactEndTag?_eq (cs : List Char) :
    exactEndTag? cs
      = let start := cs.dropWhile isBlank
        let name := start.takeWhile isEndTagChar
        if name.head?.any (·.isAlpha) then
          (behind? '>' ((start.drop name.length).dropWhile isBlank)).map
            fun rest => (name, rest)
        else none := by
  unfold exactEndTag?
  dsimp only
  generalize ((cs.dropWhile isBlank).drop _).dropWhile isBlank = after
  split
  · rfl
  · next hafter =>
    rw [behind?_eq_none hafter]
    split
    · rfl
    · rfl

/-- An end tag of the usual form is the same in front of the tail. -/
theorem exactEndTag?_tail (hzs : Tail zs) (xs : List Char) :
    exactEndTag? (xs ++ zs)
      = (exactEndTag? xs).map fun x => (x.1, x.2 ++ zs) := by
  have hblank : isBlank '<' = false := by decide
  have hname : isEndTagChar '<' = false := by decide
  rw [exactEndTag?_eq, exactEndTag?_eq]
  dsimp only
  rw [dropWhile_tail hzs hblank, takeWhile_tail hzs hname,
    List.drop_append_of_le_length (length_takeWhile_le _ _),
    dropWhile_tail hzs hblank, behind?_tail hzs (by decide)]
  split
  · rw [Option.map_map, Option.map_map]
    rfl
  · rfl

theorem Construct.of_eq_found {piece : Markup} {rest? : Option (List Char)}
    {ms : List Markup} (h : Construct.of piece rest? = .found ms rest) :
    rest? = some rest ∧ ms = [piece] := by
  cases rest? with
  | none => cases h
  | some rest' => cases h; exact ⟨rfl, rfl⟩

/-- An end tag that holds more than a name. -/
def looseEndTag (cs : List Char) : Construct :=
  .of (closing (lower (String.ofList (cs.takeWhile isTagChar))))
    ((splitAt? ['>'] (cs.dropWhile isTagChar)).map (·.2))

/-- An end tag of the usual form is a piece of its own. Any other is read
loosely, or is a divider. -/
theorem endTag_eq (cs : List Char) :
    endTag cs
      = match exactEndTag? cs, splitAt? ['>'] cs with
        | _, none => .unfinished
        | some (name, rest), _ =>
          .found [closing (lower (String.ofList name))] rest
        | none, some (before, after) =>
          if cs.head?.any (·.isAlpha) then looseEndTag cs
          else .found (if before.isEmpty then [] else [divider]) after := by
  rw [looseEndTag, ← drop_length_takeWhile]
  rfl

/-- An end tag that is read loosely is the same whatever follows. -/
theorem looseEndTag_append {ms : List Markup}
    (h : looseEndTag xs = .found ms rest) (zs : List Char) :
    looseEndTag (xs ++ zs) = .found ms (rest ++ zs) := by
  obtain ⟨hrest, rfl⟩ := Construct.of_eq_found h
  obtain ⟨x, hx, rfl⟩ := Option.map_eq_some_iff.1 hrest
  have hended : xs.dropWhile isTagChar ≠ [] := by
    intro hnil
    rw [hnil] at hx
    cases hx
  rw [looseEndTag, takeWhile_append_of_ended hended,
    dropWhile_append_of_ended hended, splitAt?_append hx]
  rfl

/-- An end tag that is found is found again in front of the tail. -/
theorem endTag_tail (hzs : Tail zs) {ms : List Markup}
    (h : endTag xs = .found ms rest) :
    endTag (xs ++ zs) = .found ms (rest ++ zs) := by
  rw [endTag_eq] at h ⊢
  rw [exactEndTag?_tail hzs]
  cases hsplit : splitAt? ['>'] xs with
  | none =>
    rw [hsplit] at h
    cases hexact : exactEndTag? xs with
    | none => rw [hexact] at h; cases h
    | some x => rw [hexact] at h; cases h
  | some split =>
    rw [splitAt?_append hsplit]
    rw [hsplit] at h
    cases hexact : exactEndTag? xs with
    | some x => rw [hexact] at h; cases h; rfl
    | none =>
      rw [hexact] at h
      dsimp only [Option.map_none] at h ⊢
      -- the tag is read loosely, up to its angle bracket
      have hne : xs ≠ [] := by
        rintro rfl
        cases hsplit
      rw [List.head?_append_of_ne_nil xs hne]
      split at h
      · next halpha =>
        rw [if_pos halpha]
        exact looseEndTag_append h zs
      · next halpha =>
        rw [if_neg halpha]
        cases h
        rfl

end Markup

end LogQuery.Html
