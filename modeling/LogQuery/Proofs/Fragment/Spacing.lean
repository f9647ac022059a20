/-
White space of another width between fragments.

Any white space on a line can stand in the place of any other that is a
fragment of its own. What starts before it starts there as it did, because it
ends before it or takes all of it along; only a slash that stands alone looks
past it, and finds no more slashes that close than it did. So the text is cut
at the same places into the same fragments, but for the white space itself.
-/
import LogQuery.Proofs.Fragment.Gap
import Mathlib.Data.List.Forall2

namespace LogQuery

open Fragment Text

namespace Lexeme

variable {g h c : Char} {xs ys zs cs : List Char}

-- ================================================================ openings

theorem endsAlike_lineOpening (c : Char) (word : Bool) :
    EndsAlike (lineOpening c word).2 := by
  unfold lineOpening
  split
  · exact endsAlike_of_endsAt fun _ _ _ _ => rfl
  split
  · exact endsAlike_gapExtent
  split
  · exact endsAlike_stringExtent
  split
  · exact endsAlike_of_endsAt fun _ hg => endsAt_numberExtent hg
  split
  · exact endsAlike_of_endsAt fun _ hg => endsAt_wordExtent hg
  · exact endsAlike_of_endsAt fun _ hg => endsAt_punctExtent hg c

/-- A comment or a regular expression that ends before white space. -/
theorem slashOpening_gap (hg : isGap g = true) (hh : isGap h = true)
    (hfits : (slashOpening (xs ++ g :: ys)).2 ≤ xs.length)
    (hpaired : (slashOpening (xs ++ g :: ys)).1 ≠ .punct) :
    slashOpening (xs ++ h :: zs) = slashOpening (xs ++ g :: ys) := by
  cases xs with
  | nil =>
    rw [slashOpening_eq_punct (Nat.le_zero.1 hfits)] at hpaired
    exact absurd rfl hpaired
  | cons d xs =>
    by_cases hline : d = '/'
    · subst hline
      rw [List.cons_append, slashOpening_line, ← List.cons_append] at hfits
      rw [List.cons_append, List.cons_append, slashOpening_line,
        slashOpening_line, ← List.cons_append, ← List.cons_append,
        endsAlike_lineExtent _ ys zs hg hh hfits]
    by_cases hblock : d = '*'
    · subst hblock
      rw [List.cons_append, slashOpening_block, List.length_cons] at hfits
      rw [List.cons_append, List.cons_append, slashOpening_block,
        slashOpening_block,
        endsAlike_blockExtent xs ys zs hg hh (Nat.le_of_succ_le_succ hfits)]
    · have hregex := slashOpening_regex hline hblock
      rw [List.cons_append, hregex, ← List.cons_append] at hfits hpaired
      rw [List.cons_append, List.cons_append, hregex, hregex,
        ← List.cons_append, ← List.cons_append]
      cases hn : regexExtent? (d :: xs ++ g :: ys) with
      | none =>
        -- a slash that stands alone is left out here
        rw [hn] at hpaired
        exact absurd rfl hpaired
      | some n =>
        rw [hn] at hfits
        rw [regexExtent?_gap hg hh hn hfits]

/-- A slash that stands alone. -/
theorem alone_of_punct (hpunct : (opening '/' cs).1 = .punct) :
    cs.head? ≠ some '/' ∧ cs.head? ≠ some '*' ∧ regexExtent? cs = none := by
  have hopens := opens_slash cs
  generalize opening '/' cs = o at hpunct hopens
  cases hopens with
  | slash _ hline hblock hopen => exact ⟨hline, hblock, hopen⟩
  | mark hbare _ _ => exact absurd rfl hbare.notSlash
  | _ => cases hpunct

/-- A slash that stands alone does so however the text behind it is spaced. -/
theorem opening_alone (hr : Respaced xs ys)
    (hpunct : (opening '/' xs).1 = .punct) :
    opening '/' ys = opening '/' xs := by
  obtain ⟨hline, hblock, hopen⟩ := alone_of_punct hpunct
  have hline' : ys.head? ≠ some '/' := fun hhead =>
    hline (hr.symm.head?_eq (by decide) hhead)
  have hblock' : ys.head? ≠ some '*' := fun hhead =>
    hblock (hr.symm.head?_eq (by decide) hhead)
  have hclosing : closing? '/' ys = none := by
    rw [regexExtent?_eq, Option.map_eq_none_iff] at hopen
    exact hr.closing?_eq_none (by decide) (by decide) (by decide) hopen
  have hopen' : regexExtent? ys = none := by
    rw [regexExtent?_eq, hclosing, Option.map_none]
  rw [opening_slash_of_not_comment hline hblock,
    opening_slash_of_not_comment hline' hblock', hopen, hopen']

/-- What starts before a text starts before it however it is spaced. -/
theorem opening_respaced (hr : Respaced ys zs)
    (hfits : (opening c (xs ++ ys)).2 ≤ xs.length) :
    opening c (xs ++ zs) = opening c (xs ++ ys) := by
  by_cases halone : c = '/' ∧ (opening c (xs ++ ys)).1 = .punct
  · obtain ⟨rfl, hpunct⟩ := halone
    exact opening_alone (hr.append_left xs) hpunct
  -- both texts are alike up to where white space stands in both
  rcases hr.eq_or_gap with rfl | ⟨p, g, h, ys', zs', hg, hh, rfl, rfl⟩
  · rfl
  rw [← List.append_assoc] at hfits halone ⊢
  rw [← List.append_assoc]
  have hfits' : (opening c (xs ++ p ++ g :: ys')).2 ≤ (xs ++ p).length :=
    hfits.trans (by simp)
  by_cases hc : c = '/'
  · subst hc
    rw [opening_slash] at hfits' halone ⊢
    rw [opening_slash]
    exact slashOpening_gap hg hh hfits' fun hpunct => halone ⟨rfl, hpunct⟩
  · rw [opening_of_ne_slash hc] at hfits' ⊢
    rw [opening_of_ne_slash hc]
    rw [startsWord_blank (isGap_iff.1 hg).1] at hfits' ⊢
    rw [startsWord_blank (isGap_iff.1 hh).1,
      endsAlike_lineOpening c _ (xs ++ p) ys' zs' hg hh hfits']

-- ================================================================= lexemes

/-- The lexeme is kept, or it is white space of a line and so is what stands in
its place. -/
structure Respaces (l m : Lexeme) : Prop where
  kind : m.kind = l.kind
  gaps : l.kind = .whitespace → GapRun m.chars
  kept : l.kind ≠ .whitespace → m.chars = l.chars

/-- A lexeme that the text opens with is cut off. -/
theorem ofChars_of_opening {l : Lexeme} {ds : List Char}
    (hchars : l.chars = c :: ds)
    (hopening : opening c (ds ++ ys) = (l.kind, ds.length)) :
    ofChars (l.chars ++ ys) = l :: ofChars ys := by
  have hfirst : first c (ds ++ ys) = l := by
    rw [first, hopening, List.take_left, ← hchars]
  rw [hchars, List.cons_append, ofChars_cons, hfirst, hopening,
    List.drop_left]

/-- White space of a line is cut off as a whole. -/
theorem opening_of_whitespace (hkind : (opening c cs).1 = .whitespace) :
    opening c cs = (.whitespace, gapExtent cs)
      ∧ GapRun (c :: cs.take (gapExtent cs)) := by
  have hopens := opens_opening c cs
  generalize opening c cs = o at hkind hopens
  cases hopens with
  | gap hfeed hblank =>
    refine ⟨rfl, List.cons_ne_nil _ _, fun d hd => ?_⟩
    rcases List.mem_cons.1 hd with rfl | hd
    · exact isGap_iff.2 ⟨hblank, hfeed⟩
    · rw [gapExtent, ← List.prefix_iff_eq_take.1
        (List.takeWhile_prefix isGap)] at hd
      exact List.mem_takeWhile_imp hd
  | _ => cases hkind

theorem gapExtent_drop (cs : List Char) :
    gapExtent (cs.drop (gapExtent cs)) = 0 := by
  rw [gapExtent, gapExtent, drop_length_takeWhile, List.length_eq_zero_iff,
    List.takeWhile_eq_nil_iff]
  intro hpos
  exact List.dropWhile_get_zero_not isGap cs hpos

/-- A run of white space with nothing of it behind is a lexeme. -/
theorem ofChars_gapRun {l : Lexeme} (hkind : l.kind = .whitespace)
    (hl : GapRun l.chars) (hys : gapExtent ys = 0) :
    ofChars (l.chars ++ ys) = l :: ofChars ys := by
  obtain ⟨g, ds, hchars, hg⟩ := hl.exists_cons
  obtain ⟨hblank, hfeed⟩ := isGap_iff.1 hg
  refine ofChars_of_opening hchars ?_
  have hds : ∀ d ∈ ds, isGap d = true := fun d hd =>
    hl.gaps d (hchars ▸ List.mem_cons_of_mem g hd)
  have hextent : gapExtent (ds ++ ys) = ds.length := by
    rw [gapExtent, List.takeWhile_append_of_pos hds, List.length_append]
    exact congrArg (ds.length + ·) hys
  rw [opening_blank hfeed hblank, hextent, hkind]

/-- Lexemes that differ in the width of white space make up texts that are
cut into them. -/
theorem ofChars_respaced {ms : List Lexeme}
    (hms : List.Forall₂ Respaces (ofChars cs) ms) :
    ofChars (ms.flatMap (·.chars)) = ms
      ∧ Respaced cs (ms.flatMap (·.chars)) := by
  fun_induction ofChars cs generalizing ms with
  | case1 =>
    cases hms
    exact ⟨ofChars_nil, .nil⟩
  | case2 c cs o =>
    rename_i ih
    obtain ⟨m, ms, hm, hrest, rfl⟩ := List.forall₂_cons_left_iff.1 hms
    obtain ⟨hcut, hrespaced⟩ := ih hrest
    have hsplit : c :: cs = (c :: cs.take o.2) ++ cs.drop o.2 := by
      rw [List.cons_append, List.take_append_drop]
    rw [List.flatMap_cons]
    by_cases hkind : o.1 = .whitespace
    -- the run may have another width, but no white space comes behind it
    · obtain ⟨hopening, hrun⟩ := opening_of_whitespace hkind
      have ho : o.2 = gapExtent cs := congrArg Prod.snd hopening
      have hbehind := hrespaced.gapExtent_eq_zero (ho ▸ gapExtent_drop cs)
      constructor
      · rw [ofChars_gapRun (hm.kind.trans hkind) (hm.gaps hkind) hbehind, hcut]
      · rw [hsplit]
        exact .gaps (ho ▸ hrun) (hm.gaps hkind) hrespaced
    -- the lexeme is kept, and fits before what is spaced anew
    · have hchars : m.chars = c :: cs.take o.2 := hm.kept hkind
      have hlength : (cs.take o.2).length = o.2 := by
        rw [List.length_take, Nat.min_eq_left (opening_le_length c cs)]
      have hopening : opening c (cs.take o.2 ++ ms.flatMap (·.chars))
          = (m.kind, (cs.take o.2).length) := by
        have hsame : opening c (cs.take o.2 ++ cs.drop o.2) = o := by
          rw [List.take_append_drop]
        rw [opening_respaced hrespaced (by rw [hsame, hlength]), hsame, hlength,
          hm.kind]
      constructor
      · rw [ofChars_of_opening hchars hopening, hcut]
      · rw [hsplit, hchars]
        exact hrespaced.append_left _

end Lexeme

-- =============================================================== fragments

/-- The text can stand in the place of the fragment: white space of a line in
the place of such white space, and nothing else but the text of the fragment
in the place of any other. -/
def Fragment.Admits (f : Fragment) (t : String) : Prop :=
  if f.kind = .whitespace then t ≠ "" ∧ t.toList.all isGap = true
  else t = f.text

instance (f : Fragment) (t : String) : Decidable (f.Admits t) :=
  inferInstanceAs (Decidable (if f.kind = .whitespace
    then t ≠ "" ∧ t.toList.all isGap = true else t = f.text))

/-- The fragments are of the same kind, and have the same text unless they are
white space. -/
structure Fragment.AlikeButSpace (f g : Fragment) : Prop where
  kind : f.kind = g.kind
  text : f.kind ≠ .whitespace → f.text = g.text

/-- Texts that can stand in the places of the fragments come from lexemes. -/
theorem exists_respaces {start : Nat} {ls : List Lexeme} {ts : List String}
    (hts : List.Forall₂ Fragment.Admits (Lexeme.place start ls) ts) :
    ∃ ms, List.Forall₂ Lexeme.Respaces ls ms
      ∧ ts = ms.map fun m => String.ofList m.chars := by
  induction ls generalizing start ts with
  | nil =>
    cases hts
    exact ⟨[], .nil, rfl⟩
  | cons l ls ih =>
    obtain ⟨t, ts, ht, hrest, rfl⟩ := List.forall₂_cons_left_iff.1 hts
    obtain ⟨ms, hms, rfl⟩ := ih hrest
    refine ⟨⟨l.kind, t.toList⟩ :: ms, .cons ⟨rfl, fun hkind => ?_,
      fun hkind => ?_⟩ hms, ?_⟩
    · obtain ⟨hne, hgaps⟩ := (if_pos hkind).mp ht
      exact ⟨mt String.toList_eq_nil_iff.1 hne, List.all_eq_true.1 hgaps⟩
    · have htext : t = String.ofList l.chars := (if_neg hkind).mp ht
      show t.toList = l.chars
      rw [htext, String.toList_ofList]
    · rw [List.map_cons, String.ofList_toList]

theorem map_text_place (start : Nat) (ls : List Lexeme) :
    (Lexeme.place start ls).map (·.text)
      = ls.map fun l => String.ofList l.chars := by
  induction ls generalizing start with
  | nil => rfl
  | cons l ls ih =>
    rw [Lexeme.place_cons, List.map_cons, ih]
    rfl

theorem forall₂_place {ls ms : List Lexeme} (start start' : Nat)
    (hms : List.Forall₂ Lexeme.Respaces ls ms) :
    List.Forall₂ Fragment.AlikeButSpace (Lexeme.place start' ms)
      (Lexeme.place start ls) := by
  induction hms generalizing start start' with
  | nil => exact .nil
  | @cons l m ls ms hlm _ ih =>
    refine .cons ⟨hlm.kind, fun hkind => ?_⟩ (ih _ _)
    exact congrArg String.ofList (hlm.kept (hlm.kind ▸ hkind))

/-- Any other white space can stand in the place of white space between the
fragments of a query. It is cut into fragments of the same kinds, with the
texts that were put in. -/
theorem scan_respaced {text : String} {ts : List String}
    (hts : List.Forall₂ Fragment.Admits (scan text) ts) :
    List.Forall₂ Fragment.AlikeButSpace (scan (String.join ts)) (scan text)
      ∧ (scan (String.join ts)).map (·.text) = ts := by
  obtain ⟨ms, hms, rfl⟩ := exists_respaces hts
  have hchars : (String.join (ms.map fun m => String.ofList m.chars)).toList
      = ms.flatMap (·.chars) := by
    rw [String.toList_join, List.flatMap_map]
    simp
  have hscan : scan (String.join (ms.map fun m => String.ofList m.chars))
      = Lexeme.place 0 ms := by
    rw [scan, hchars, (Lexeme.ofChars_respaced hms).1]
  rw [hscan]
  exact ⟨forall₂_place 0 0 hms, map_text_place 0 ms⟩

end LogQuery
