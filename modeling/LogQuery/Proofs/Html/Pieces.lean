/-
The pieces of a page with more text behind it.

What a page is read into does not change when tags follow it, provided that it
does not end within a piece (`endsWhole`): its pieces are the first of the
longer page, and reading goes on at the tail (`pieces_tail`). One piece is read
at a time (`piece?`), and the pieces follow by induction.
-/
import LogQuery.Proofs.Html.Construct

namespace LogQuery.Html

open Text

namespace Markup

variable {zs xs rest : List Char} {ms ms' : List Markup} {again again' : Bool}

-- ================================================================= one piece

/-- What the page starts with: its pieces, whether reading may still go on
behind a construct that seems to be none, and what follows. -/
abbrev Piece := List Markup × Bool × List Char

/-- The piece that a construct is. The content of a raw element belongs to its
start tag. -/
def ofConstruct? (again : Bool) : Construct → Option Piece
  | .found [opening name false] rest =>
    if rawElements.contains name then
      (rawContent? name rest).map fun x =>
        ([opening name false, text x.1, closing name], again, x.2)
    else some ([opening name false], again, rest)
  | .found found rest => some (found, again, rest)
  | .unfinished => none
  | .refused _ => none

/-- The piece that a reference is. -/
def ofReference? (again : Bool) : Reference → Option Piece
  | .found chars rest => some ([text chars], again, rest)
  | .literal chars rest =>
    if chars = ['&'] then some ([text chars], again, rest)
    else if again then some ([text chars], false, rest)
    else none
  | .tooLong _ => none
  | .unfinished => none

/-- Text without tags and references. -/
def isPlainChar (c : Char) : Bool := c ≠ '<' && c ≠ '&'

/-- The piece that a page starts with, if the page does not end within it. -/
def piece? (again : Bool) (cs : List Char) : Option Piece :=
  match cs with
  | [] => none
  | '<' :: rest => ofConstruct? again (construct rest)
  | '&' :: rest =>
    if Reference.isWhole rest then ofReference? again (Reference.ofChars rest)
    else none
  | _ =>
    some ([text (cs.takeWhile isPlainChar)], again, cs.dropWhile isPlainChar)

/-- A page that starts with a construct: its piece comes first. -/
theorem pieces_of_construct
    (h : ofConstruct? again (construct xs) = some (ms, again', rest))
    (fuel : Nat) :
    pieces again (fuel + 1) ('<' :: xs)
      = followed ms (pieces again' fuel rest) := by
  rw [pieces]
  generalize construct xs = found at h ⊢
  unfold ofConstruct? at h
  split at h
  · next name after =>
    dsimp only
    split at h
    · next hraw =>
      rw [if_pos hraw]
      -- the content of a raw element is taken along
      obtain ⟨x, hx, heq⟩ := Option.map_eq_some_iff.1 h
      rw [hx]
      cases heq
      rfl
    · next hraw =>
      rw [if_neg hraw]
      -- any other construct is a piece by itself
      cases h
      rfl
  · next found after hne =>
    cases h
    split
    · next heq => cases heq
    · next heq => cases heq; exact absurd rfl (hne _)
    · next heq => cases heq; rfl
    · next heq => cases heq
  · cases h
  · cases h

/-- A page that starts with a reference: its piece comes first. -/
theorem pieces_of_reference
    (h : ofReference? again (Reference.ofChars xs) = some (ms, again', rest))
    (fuel : Nat) :
    pieces again (fuel + 1) ('&' :: xs)
      = followed ms (pieces again' fuel rest) := by
  rw [pieces.eq_def]
  simp only
  generalize Reference.ofChars xs = reference at h ⊢
  cases reference with
  | found chars rest => cases h; rfl
  | literal chars rest =>
    rw [ofReference?] at h
    dsimp only
    split at h
    · next hchars => rw [if_pos hchars]; cases h; rfl
    · next hchars =>
      rw [if_neg hchars]
      split at h
      · next hagain => rw [if_pos hagain]; cases h; rfl
      · cases h
  | tooLong digits => cases h
  | unfinished => cases h

/-- **One piece at a time.** Reading gives the piece that the page starts
with, and goes on behind it. -/
theorem pieces_of_piece? (h : piece? again xs = some (ms, again', rest))
    (fuel : Nat) :
    pieces again (fuel + 1) xs = followed ms (pieces again' fuel rest) := by
  unfold piece? at h
  split at h
  · cases h
  · exact pieces_of_construct h fuel
  · split at h
    · exact pieces_of_reference h fuel
    · cases h
  · next hnil htag hreference =>
    cases h
    rw [pieces]
    · rw [← drop_length_takeWhile]
      rfl
    · exact hnil
    · exact htag
    · exact hreference

/-- The piece that a construct is stays the same in front of the tail. -/
theorem ofConstruct?_tail (hzs : Tail zs) {found : List Markup}
    (h : ofConstruct? again (.found found xs) = some (ms, again', rest)) :
    ofConstruct? again (.found found (xs ++ zs))
      = some (ms, again', rest ++ zs) := by
  unfold ofConstruct? at h ⊢
  split at h
  · next heq =>
    cases heq
    dsimp only
    split at h
    · next hraw =>
      rw [if_pos hraw]
      obtain ⟨x, hx, heq⟩ := Option.map_eq_some_iff.1 h
      cases heq
      -- the raw content ends before the tail
      rw [rawContent?_tail hzs hx]
      rfl
    · next hraw =>
      rw [if_neg hraw]
      cases h
      rfl
  · next hne heq =>
    cases heq
    cases h
    split
    · next heq => cases heq; exact absurd rfl (hne _)
    · next heq => cases heq; rfl
    · next heq => cases heq
    · next heq => cases heq
  · next heq => cases heq
  · next heq => cases heq

/-- The piece that a reference is does not depend on what follows it. -/
theorem ofReference?_append (again : Bool) (zs : List Char) (r : Reference) :
    ofReference? again (r.append zs)
      = (ofReference? again r).map fun x => (x.1, x.2.1, x.2.2 ++ zs) := by
  cases r with
  | found chars rest => rfl
  | literal chars rest =>
    rw [Reference.append, ofReference?, ofReference?]
    split
    · rfl
    split
    · rfl
    · rfl
  | tooLong digits => rfl
  | unfinished => rfl

/-- A piece that is whole is read again in front of the tail. -/
theorem piece?_tail (hzs : Tail zs)
    (h : piece? again xs = some (ms, again', rest)) :
    piece? again (xs ++ zs) = some (ms, again', rest ++ zs) := by
  unfold piece? at h
  split at h
  · cases h
  · next after =>
    rw [List.cons_append, piece?]
    -- a construct
    cases hconstruct : construct after with
    | found found more =>
      rw [construct_tail hzs hconstruct]
      rw [hconstruct] at h
      exact ofConstruct?_tail hzs h
    | unfinished => rw [hconstruct] at h; cases h
    | refused r => rw [hconstruct] at h; cases h
  · next after =>
    rw [List.cons_append, piece?]
    split at h
    · next hwhole =>
      -- a reference that ends before the tail
      rw [if_pos (Reference.isWhole_tail hzs hwhole),
        Reference.ofChars_tail hzs hwhole, ofReference?_append, h]
      rfl
    · cases h
  · next hnil htag hreference =>
    cases h
    -- a text, which the first mark behind it ends
    obtain ⟨c, more, rfl⟩ := List.exists_cons_of_ne_nil hnil
    rw [piece?, takeWhile_tail hzs (by decide), dropWhile_tail hzs (by decide)]
    · exact List.append_ne_nil_of_left_ne_nil hnil zs
    · intro after heq
      cases heq
      exact htag more rfl
    · intro after heq
      cases heq
      exact hreference more rfl

-- ================================================================ many pieces

/-- The page does not end within a piece. -/
def endsWhole (again : Bool) : Nat → List Char → Bool
  | 0, _ => false
  | fuel + 1, cs =>
    cs.isEmpty || (piece? again cs).any fun x => endsWhole x.2.1 fuel x.2.2

theorem followed_ok (found more : List Markup) :
    followed found (.ok more) = .ok (found ++ more) := rfl

/-- Pieces in front of pieces. -/
theorem followed_followed (more : Except Refusal (List Markup)) :
    followed ms (followed ms' more) = followed (ms ++ ms') more := by
  cases more with
  | error r => rfl
  | ok found => simp [followed_ok]

theorem followed_nil (more : Except Refusal (List Markup)) :
    followed [] more = more := by
  cases more with
  | error r => rfl
  | ok found => rfl

/-- The pieces of a page that does not end within one are the first if tags
follow it, and reading goes on there. -/
theorem pieces_tail (hzs : Tail zs) {fuel : Nat}
    (h : endsWhole again fuel xs = true) :
    ∃ found again' left, pieces again fuel xs = .ok found
      ∧ ∀ more, pieces again (fuel + more) (xs ++ zs)
        = followed found (pieces again' (left + more) zs) := by
  induction fuel generalizing again xs with
  | zero => cases h
  | succ fuel ih =>
    rw [endsWhole, Bool.or_eq_true] at h
    rcases h with h | h
    · -- what is left of the fuel is there for the tail
      rw [List.isEmpty_iff.1 h]
      exact ⟨[], again, fuel + 1, rfl, fun more => (followed_nil _).symm⟩
    · obtain ⟨⟨ms, again', rest⟩, hpiece, hwhole⟩ :=
        (Option.any_eq_true _ _).1 h
      obtain ⟨found, again'', left, hfound, htail⟩ := ih hwhole
      refine ⟨ms ++ found, again'', left, ?_, fun more => ?_⟩
      · rw [pieces_of_piece? hpiece, hfound, followed_ok]
      · rw [Nat.add_right_comm, pieces_of_piece? (piece?_tail hzs hpiece),
          htail, followed_followed]

-- ================================================================ plain tags

/-- A name that a tag can have, of an element whose content is markup. -/
structure IsPlainName (name : List Char) : Prop where
  starts : name.head?.any (·.isAlpha) = true
  chars : ∀ c ∈ name, isEndTagChar c = true
  notRaw : rawElements.contains (lower (String.ofList name)) = false

instance (name : List Char) : Decidable (IsPlainName name) :=
  decidable_of_iff (name.head?.any (·.isAlpha) = true
      ∧ name.all isEndTagChar = true
      ∧ rawElements.contains (lower (String.ofList name)) = false)
    ⟨fun h => ⟨h.1, List.all_eq_true.1 h.2.1, h.2.2⟩,
      fun h => ⟨h.starts, List.all_eq_true.2 h.chars, h.notRaw⟩⟩

variable {name : List Char} {fuel : Nat}

/-- The name of a start tag goes at least as far as that of an end tag. -/
theorem isTagChar_of_isEndTagChar {c : Char} (h : isEndTagChar c = true) :
    isTagChar c = true := by
  rw [isTagChar, List.all_eq_true]
  intro d hd
  rw [decide_eq_true_eq]
  rintro rfl
  have hnone : ['\t', '\n', '\r', '\u000C', ' ', '/', '>', '\u0000'].all
      (!isEndTagChar ·) = true := by decide
  have hother := List.all_eq_true.1 hnone c hd
  rw [h] at hother
  cases hother

/-- A name ends at the angle bracket behind it. -/
theorem takeWhile_name {p : Char → Bool} (hname : ∀ c ∈ name, p c = true)
    (hp : p '>' = false) (rest : List Char) :
    (name ++ '>' :: rest).takeWhile p = name := by
  rw [List.takeWhile_append_of_pos hname,
    List.takeWhile_cons_of_neg (by simp [hp]), List.append_nil]

/-- A plain name in angle brackets is a start tag. -/
theorem construct_startTag (hname : IsPlainName name) (rest : List Char) :
    construct (name ++ '>' :: rest)
      = .found [opening (lower (String.ofList name)) false] rest := by
  have htake := takeWhile_name (p := isTagChar)
    (fun c hc => isTagChar_of_isEndTagChar (hname.chars c hc)) (by decide) rest
  have hstart : startTag (name ++ '>' :: rest)
      = .found [opening (lower (String.ofList name)) false] rest := by
    rw [startTag, htake, List.drop_left]
    rfl
  obtain ⟨c, hc, halpha⟩ := (Option.any_eq_true _ _).1 hname.starts
  obtain ⟨more, rfl⟩ := List.head?_eq_some_iff.1 hc
  rw [List.cons_append] at hstart ⊢
  rw [construct_cons, if_pos halpha, hstart]
  · rintro rfl; cases halpha
  · rintro rfl; cases halpha
  · rintro rfl; cases halpha

/-- No letter is white space. -/
theorem isBlank_of_isAlpha {c : Char} (h : c.isAlpha = true) :
    isBlank c = false := by
  rw [← Bool.not_eq_true]
  intro hblank
  have hall : blanks.chars.all (fun c => !c.isAlpha) = true := by decide
  have hother := forall_isBlank (List.all_eq_true.1 hall) hblank
  rw [h] at hother
  cases hother

/-- A plain name behind a slash is an end tag. -/
theorem construct_endTag (hname : IsPlainName name) (rest : List Char) :
    construct ('/' :: (name ++ '>' :: rest))
      = .found [closing (lower (String.ofList name))] rest := by
  have htake := takeWhile_name hname.chars (by decide) rest
  have hblank : (name ++ '>' :: rest).dropWhile isBlank
      = name ++ '>' :: rest := by
    obtain ⟨c, hc, halpha⟩ := (Option.any_eq_true _ _).1 hname.starts
    obtain ⟨more, rfl⟩ := List.head?_eq_some_iff.1 hc
    exact List.dropWhile_cons_of_neg (by simp [isBlank_of_isAlpha halpha])
  have hexact : exactEndTag? (name ++ '>' :: rest) = some (name, rest) := by
    rw [exactEndTag?_eq]
    dsimp only
    rw [hblank, htake, if_pos hname.starts, List.drop_left,
      List.dropWhile_cons_of_neg (by decide), behind?_cons_self]
    rfl
  change endTag (name ++ '>' :: rest) = _
  rw [endTag, hexact]
  cases hsplit : splitAt? ['>'] (name ++ '>' :: rest) with
  | none => exact absurd hsplit (splitAt?_ne_none (by simp))
  | some split => rfl

/-- A page that starts with the start tag of a plain name. -/
theorem pieces_startTag (hname : IsPlainName name) (rest : List Char) :
    pieces again (fuel + 1) ('<' :: (name ++ '>' :: rest))
      = followed [opening (lower (String.ofList name)) false]
          (pieces again fuel rest) := by
  refine pieces_of_construct ?_ fuel
  rw [construct_startTag hname, ofConstruct?, hname.notRaw,
    if_neg Bool.false_ne_true]

/-- A page that starts with the end tag of a plain name. -/
theorem pieces_endTag (hname : IsPlainName name) (rest : List Char) :
    pieces again (fuel + 1) ('<' :: '/' :: (name ++ '>' :: rest))
      = followed [closing (lower (String.ofList name))]
          (pieces again fuel rest) := by
  refine pieces_of_construct ?_ fuel
  rw [construct_endTag hname]
  rfl

end Markup

-- ==================================================================== layout

/-- The page in the only cell of a table. -/
def inLayout (page : String) : String :=
  "<table><tr><td>" ++ page ++ "</td></tr></table>"

namespace Markup

theorem isPlainName_layout :
    IsPlainName "table".toList ∧ IsPlainName "tr".toList
      ∧ IsPlainName "td".toList := by
  decide

/-- The start of the layout is three start tags, whatever follows. -/
theorem pieces_layoutStart (again : Bool) (fuel : Nat) (cs : List Char) :
    pieces again (fuel + 3) ("<table><tr><td>".toList ++ cs)
      = followed [opening "table" false, opening "tr" false, opening "td" false]
          (pieces again fuel cs) := by
  obtain ⟨htable, htr, htd⟩ := isPlainName_layout
  calc pieces again (fuel + 3) ("<table><tr><td>".toList ++ cs)
      = followed [opening "table" false]
          (pieces again (fuel + 2) ("<tr><td>".toList ++ cs)) :=
        pieces_startTag htable _
    _ = followed [opening "table" false] (followed [opening "tr" false]
          (pieces again (fuel + 1) ("<td>".toList ++ cs))) :=
        congrArg _ (pieces_startTag htr _)
    _ = followed [opening "table" false] (followed [opening "tr" false]
          (followed [opening "td" false] (pieces again fuel cs))) :=
        congrArg (followed _ <| followed _ ·)
          (pieces_startTag htd _)
    _ = followed [opening "table" false, opening "tr" false, opening "td" false]
          (pieces again fuel cs) := by
        rw [followed_followed, followed_followed]
        rfl

/-- The end of the layout is three end tags. -/
theorem pieces_layoutEnd (again : Bool) (fuel : Nat) :
    pieces again (fuel + 4) "</td></tr></table>".toList
      = .ok [closing "td", closing "tr", closing "table"] := by
  obtain ⟨htable, htr, htd⟩ := isPlainName_layout
  calc pieces again (fuel + 4) "</td></tr></table>".toList
      = followed [closing "td"]
          (pieces again (fuel + 3) "</tr></table>".toList) :=
        pieces_endTag htd _
    _ = followed [closing "td"] (followed [closing "tr"]
          (pieces again (fuel + 2) "</table>".toList)) :=
        congrArg _ (pieces_endTag htr _)
    _ = followed [closing "td"] (followed [closing "tr"]
          (followed [closing "table"] (pieces again (fuel + 1) []))) :=
        congrArg (followed _ <| followed _ ·)
          (pieces_endTag htable _)

/-- The pieces of a page that does not end within one are read between the
tags of the layout. -/
theorem ofText_inLayout {page : String}
    (h : endsWhole true (page.length + 1) page.toList = true) :
    ∃ found, ofText page = .ok found
      ∧ ofText (inLayout page)
        = .ok ([opening "table" false, opening "tr" false, opening "td" false]
          ++ (found ++ [closing "td", closing "tr", closing "table"])) := by
  have hzs : Tail "</td></tr></table>".toList := by decide
  obtain ⟨found, again, left, hfound, htail⟩ := pieces_tail hzs h
  -- the tags are named, since texts that are spelled out are slow to compare
  have hchars (before after : String) : (before ++ page ++ after).toList
      = before.toList ++ (page.toList ++ after.toList) := by
    rw [String.toList_append, String.toList_append, List.append_assoc]
  have hlength (before after : String) (hbefore : before.length = 15)
      (hafter : after.length = 18) :
      (before ++ page ++ after).length + 1 = page.length + 1 + 30 + 3 := by
    rw [String.length_append, String.length_append]
    omega
  refine ⟨found, hfound, ?_⟩
  calc ofText (inLayout page)
      = pieces true (page.length + 1 + 30 + 3) ("<table><tr><td>".toList
          ++ (page.toList ++ "</td></tr></table>".toList)) :=
        congrArg₂ (pieces true) (hlength _ _ rfl rfl) (hchars _ _)
    _ = followed [opening "table" false, opening "tr" false, opening "td" false]
          (pieces true (page.length + 1 + 30)
            (page.toList ++ "</td></tr></table>".toList)) :=
        pieces_layoutStart true _ _
    _ = followed [opening "table" false, opening "tr" false, opening "td" false]
          (followed found
            (pieces again (left + 30) "</td></tr></table>".toList)) :=
        congrArg _ (htail 30)
    _ = _ := congrArg (followed _ <| followed found ·)
          (pieces_layoutEnd again (left + 26))

end Markup

end LogQuery.Html
