/-
A line feed between two fragments.

Between two lexemes a text falls into two texts, and each of them is cut on
its own as it was cut in the whole: what ends at the boundary may have looked
beyond it, but without effect, and what starts there does not look back. A
line feed put between the two texts ends nothing that was not ended, so it
adds one lexeme and changes no other. Only a block comment without its end
would swallow it.

So scanning can start again at any fragment, and a fragment can be scanned by
itself: its text alone says what kind of fragment it is.
-/
import LogQuery.Proofs.Fragment.Cut
import LogQuery.Proofs.Fragment.Lines

namespace LogQuery

open Fragment

namespace Lexeme

variable {xs ys : List Char} {F G : List Lexeme}

-- ============================================================== boundaries

/-- What follows a boundary is cut as it is on its own. -/
theorem ofChars_behind (h : ofChars (xs ++ ys) = F ++ G)
    (htotal : total F = xs.length) : ofChars ys = G := by
  induction F generalizing xs with
  | nil =>
    have hxs : xs = [] := List.eq_nil_of_length_eq_zero htotal.symm
    rw [hxs] at h
    exact h
  | cons k F ih =>
    rw [total_cons] at htotal
    obtain ⟨c, cs, rfl, rfl, -, hrest⟩ := ofChars_cons_inv h (by omega)
    rw [length_chars_first, List.length_cons] at htotal
    refine ih hrest.symm ?_
    rw [List.length_drop]
    omega

/-- What comes before a boundary is cut as it is on its own. -/
theorem ofChars_before (h : ofChars (xs ++ ys) = F ++ G)
    (htotal : total F = xs.length) : ofChars xs = F := by
  rcases List.eq_nil_or_concat F with rfl | ⟨F, l, rfl⟩
  · have hxs : xs = [] := List.eq_nil_of_length_eq_zero htotal.symm
    rw [hxs, ofChars_nil]
  rw [List.concat_eq_append] at h htotal ⊢
  rw [List.append_assoc] at h
  obtain ⟨m, ⟨rest, hrest⟩, -, hexact⟩ := ofChars_cut h (Nat.le_of_eq htotal)
  obtain rfl := hexact htotal
  -- the lexemes so far take all characters, so nothing is left for others
  have hsum := total_ofChars xs
  rw [← hrest, total_append, htotal] at hsum
  cases rest with
  | nil => rw [← hrest, List.append_nil]
  | cons k rest =>
    have hk : k ∈ ofChars xs :=
      hrest ▸ List.mem_append_right _ List.mem_cons_self
    have := List.length_pos_iff.2 (chars_ne_nil hk)
    rw [total_cons] at hsum
    omega

/-- A lexeme that is taken out of its text is cut as it was in there. -/
theorem ofChars_alone {cs : List Char} {l : Lexeme} (hl : l ∈ ofChars cs) :
    ofChars l.chars = [l] := by
  obtain ⟨F, G, hsplit⟩ := List.append_of_mem hl
  have hchars : cs
      = F.flatMap (·.chars) ++ (l.chars ++ G.flatMap (·.chars)) := by
    rw [← flatMap_chars_ofChars cs, hsplit, List.flatMap_append,
      List.flatMap_cons]
  rw [hchars] at hsplit
  have hbehind : ofChars (l.chars ++ G.flatMap (·.chars)) = [l] ++ G :=
    ofChars_behind hsplit rfl
  exact ofChars_before hbehind (by rw [total_cons, total_nil, Nat.add_zero])

/-- A line feed at a boundary is one more lexeme, and the others stay. -/
theorem ofChars_break (h : ofChars (xs ++ ys) = F ++ G)
    (htotal : total F = xs.length)
    (hclosed : ∀ l ∈ F.getLast?, l.isUnclosed = false) :
    ofChars (xs ++ '\n' :: ys) = F ++ ⟨.newline, ['\n']⟩ :: G := by
  have hbefore := ofChars_before h htotal
  rw [← hbefore] at hclosed
  rw [ofChars_lineFeed ys hclosed, hbefore, ofChars_behind h htotal]

/-- The first lexemes of a text take as many characters as there are before
their end. -/
theorem total_eq_length_take {cs : List Char} (h : ofChars cs = F ++ G) :
    total F = (cs.take (total F)).length := by
  have hsum := total_ofChars cs
  rw [h, total_append] at hsum
  rw [List.length_take]
  omega

/-- Placed lexemes fall apart as the lexemes do. -/
theorem exists_of_place_eq_append {start : Nat} {ls : List Lexeme}
    {fs gs : List Fragment} (h : place start ls = fs ++ gs) :
    ∃ F G, ls = F ++ G ∧ fs = place start F
      ∧ gs = place (start + total F) G := by
  induction fs generalizing start ls with
  | nil => exact ⟨[], ls, rfl, rfl, h.symm⟩
  | cons f fs ih =>
    cases ls with
    | nil => cases h
    | cons l ls =>
      rw [place_cons, List.cons_append] at h
      obtain ⟨rfl, hrest⟩ := List.cons.inj h
      obtain ⟨F, G, rfl, rfl, rfl⟩ := ih hrest
      refine ⟨l :: F, G, rfl, rfl, ?_⟩
      rw [total_cons, Nat.add_assoc]

end Lexeme

-- ===================================================== fragments by offset

/-- The text of a fragment is scanned as that fragment alone. -/
theorem scan_text_of_mem_scan {text : String} {f : Fragment}
    (hf : f ∈ scan text) :
    scan f.text = [⟨f.kind, ⟨0, f.text.length⟩, f.text⟩] := by
  obtain ⟨before, l, after, hsplit, rfl⟩ := mem_scan_iff.1 hf
  have hl : l ∈ Lexeme.ofChars text.toList :=
    hsplit ▸ List.mem_append_right before List.mem_cons_self
  have htext : (l.placed (Lexeme.total before)).text.toList = l.chars :=
    String.toList_ofList
  rw [scan, htext, Lexeme.ofChars_alone hl]
  simp [Lexeme.placed]

/-- The fragment at an offset is told by the text from there on. -/
theorem eq_first_of_mem_scan {text : String} {f : Fragment} {p : Nat}
    {c : Char} (hf : f ∈ scan text) (hp : f.span.start = p)
    (hc : text.toList[p]? = some c) :
    f = (Lexeme.first c (text.toList.drop (p + 1))).placed p := by
  obtain ⟨q, d, hq, hd, heq⟩ := exists_first_of_mem_scan hf
  obtain rfl : q = p := by
    rw [hp] at hq
    exact (Int.natCast_inj.1 hq).symm
  rw [hc] at hd
  obtain rfl := Option.some.inj hd
  exact heq

/-- No two fragments start at one offset. -/
theorem eq_of_start_eq {text : String} {f g : Fragment} (hf : f ∈ scan text)
    (hg : g ∈ scan text) (h : f.span.start = g.span.start) : f = g := by
  obtain ⟨p, c, hp, hc, heq⟩ := exists_first_of_mem_scan hf
  rw [eq_first_of_mem_scan hg (h.symm.trans hp) hc]
  exact heq

-- ========================================================= starting again

/-- The text without its first `n` characters. -/
def dropChars (n : Nat) (text : String) : String :=
  String.ofList (text.toList.drop n)

theorem shift_neg_shift (d : Int) (f : Fragment) :
    (f.shift d).shift (-d) = f := by
  simp only [Fragment.shift, Int.add_neg_cancel_right]

/-- The text behind the first fragments is scanned as it was in the whole, but
for the offsets. -/
theorem scan_dropChars {text : String} {F G : List Lexeme}
    (h : Lexeme.ofChars text.toList = F ++ G) :
    scan (dropChars (Lexeme.total F) text)
      = (Lexeme.place (Lexeme.total F) G).map (·.shift (-(Lexeme.total F))) := by
  have hplace := Lexeme.place_add 0 (Lexeme.total F) G
  rw [Nat.zero_add] at hplace
  rw [scan, dropChars, String.toList_ofList, Lexeme.ofChars_drop h, hplace,
    List.map_map]
  exact (List.map_id'' (fun f => shift_neg_shift _ f) _).symm

/-- Scanning can start again at any fragment, and gives the fragments from
there on. The text of a fragment alone fixes its kind: it is scanned as that
one fragment, so a fragment of any query with the same text has the same
kind. -/
theorem scan_starts_again {text : String} {i : Nat} {f : Fragment}
    (hf : (scan text)[i]? = some f) :
    scan (dropChars f.span.start.toNat text)
        = ((scan text).drop i).map (·.shift (-f.span.start))
      ∧ scan f.text = [⟨f.kind, ⟨0, f.text.length⟩, f.text⟩]
      ∧ ∀ other : String, ∀ g ∈ scan other, g.text = f.text →
          g.kind = f.kind := by
  have halone := scan_text_of_mem_scan (List.mem_of_getElem? hf)
  refine ⟨?_, halone, fun other g hg htext => ?_⟩
  · obtain ⟨F, G, hsplit, -, hrest⟩ := Lexeme.exists_of_place_eq_append
      (List.take_append_drop i (scan text)).symm
    rw [Nat.zero_add] at hrest
    -- the fragment is the first one of the rest
    have hstart : f.span.start = Lexeme.total F := by
      rw [← List.head?_drop, hrest] at hf
      cases G with
      | nil => cases hf
      | cons l G => cases hf; rfl
    rw [hstart, Int.toNat_natCast, scan_dropChars hsplit, hrest]
  · have halone' := scan_text_of_mem_scan hg
    rw [htext, halone] at halone'
    exact (congrArg Fragment.kind (List.cons.inj halone').1).symm

/-- Letters behind a regular expression that go on as a longer word are no
flags. Without that word it is the same expression. -/
theorem scan_starts_again_regex :
    let text := "x=/a/ix"
    let f : Fragment := ⟨.regexLiteral, ⟨2, 5⟩, "/a/"⟩
    (scan text)[2]? = some f
      ∧ scan (dropChars 2 text) = ((scan text).drop 2).map (·.shift (-2))
      ∧ scan f.text = [⟨f.kind, ⟨0, 3⟩, f.text⟩]
      ∧ ∀ other : String, ∀ g ∈ scan other, g.text = f.text →
          g.kind = .regexLiteral := by
  intro text f
  have hf : (scan text)[2]? = some f := by decide +kernel
  have hlength : f.text.length = 3 := by decide
  obtain ⟨hrest, halone, hkind⟩ := scan_starts_again hf
  rw [hlength] at halone
  exact ⟨hf, hrest, halone, hkind⟩

-- ============================================================= line breaks

/-- The offset at which the first fragments of a text end. -/
def endOf (fs : List Fragment) : Nat :=
  (fs.getLast?.elim 0 (·.span.stop)).toNat

/-- The text with a line feed put in at an offset. -/
def breakAt (p : Nat) (text : String) : String :=
  firstChars p text ++ "\n" ++ String.ofList (text.toList.drop p)

theorem endOf_place (F : List Lexeme) :
    endOf (Lexeme.place 0 F) = Lexeme.total F := by
  unfold endOf
  cases hlast : (Lexeme.place 0 F).getLast? with
  | none =>
    have hnil := List.getLast?_eq_none_iff.1 hlast
    cases F with
    | nil => rfl
    | cons l F => cases hnil
  | some f =>
    rw [Option.elim_some, Lexeme.stop_of_getLast?_place hlast,
      Int.toNat_natCast, Nat.zero_add]

/-- Between any two fragments of a query, and at both its ends, a line feed is
one more fragment; the others stay, moved along behind it. -/
theorem scan_breakAt {text : String} {fs gs : List Fragment}
    (h : scan text = fs ++ gs)
    (hclosed : ∀ f ∈ fs.getLast?, f.isUnclosed = false) :
    scan (breakAt (endOf fs) text)
      = fs ++ ⟨.newline, ⟨endOf fs, endOf fs + 1⟩, "\n"⟩
        :: gs.map (·.shift 1) := by
  obtain ⟨F, G, hsplit, rfl, rfl⟩ := Lexeme.exists_of_place_eq_append h
  have hclosed' : ∀ l ∈ F.getLast?, l.isUnclosed = false := by
    intro l hl
    obtain ⟨init, rfl⟩ := List.getLast?_eq_some_iff.1 hl
    rw [← Lexeme.isUnclosed_placed l (0 + Lexeme.total init)]
    refine hclosed _ ?_
    rw [Lexeme.place_append, Lexeme.place_cons, Lexeme.place_nil,
      List.getLast?_concat]
    rfl
  have htake := Lexeme.total_eq_length_take hsplit
  rw [← List.take_append_drop (Lexeme.total F) text.toList] at hsplit
  have hbreak := Lexeme.ofChars_break hsplit htake hclosed'
  have hchars : (breakAt (Lexeme.total F) text).toList
      = text.toList.take (Lexeme.total F)
        ++ '\n' :: text.toList.drop (Lexeme.total F) := by
    simp [breakAt, firstChars]
  have hrest := Lexeme.place_add (Lexeme.total F) 1 G
  rw [endOf_place, scan, hchars, hbreak, Lexeme.place_append, Nat.zero_add,
    Lexeme.place_cons]
  change _ ++ _ :: Lexeme.place (Lexeme.total F + 1) G = _
  rw [hrest]
  rfl

end LogQuery
