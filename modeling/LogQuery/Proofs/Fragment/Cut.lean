/-
Lexemes before a cut.

Take a text that is cut off somewhere, and the lexemes of the whole text that
end before the cut. They are lexemes of what is left as well. The last of
them may be an exception: a regular expression can grow over the letters
behind it when the cut makes them flags. A regular expression with another
lexeme behind it can not, since that lexeme is the word that the letters
belong to.
-/
import LogQuery.Proofs.Fragment.Partition

namespace LogQuery.Lexeme

open Fragment

variable {xs ys : List Char}

/-- What becomes of a lexeme when the text is cut off behind it: nothing, or
it is a regular expression and takes more. -/
def Grows (l m : Lexeme) : Prop :=
  m = l ∨ (l.kind = .regexLiteral ∧ m.kind = .regexLiteral
    ∧ l.chars <+: m.chars)

variable {l m : Lexeme}

theorem Grows.kind_eq (h : l.Grows m) : m.kind = l.kind := by
  rcases h with rfl | ⟨hl, hm, -⟩
  · rfl
  · rw [hl, hm]

theorem Grows.prefix_chars (h : l.Grows m) : l.chars <+: m.chars := by
  rcases h with rfl | ⟨-, -, hchars⟩
  · exact List.prefix_refl _
  · exact hchars

/-- Only regular expressions grow. -/
theorem Grows.eq_of_kind_ne (h : l.Grows m) (hkind : l.kind ≠ .regexLiteral) :
    m = l := by
  rcases h with rfl | ⟨hl, -, -⟩
  · rfl
  · exact absurd hl hkind

/-- The first lexeme before a cut. -/
theorem first_cut {c : Char} (h : (opening c (xs ++ ys)).2 ≤ xs.length) :
    (opening c xs = opening c (xs ++ ys)
        ∧ first c xs = first c (xs ++ ys))
      ∨ ((first c (xs ++ ys)).kind = .regexLiteral
        ∧ (first c xs).kind = .regexLiteral
        ∧ (first c (xs ++ ys)).chars <+: (first c xs).chars
        ∧ CutFlags (xs.drop (opening c (xs ++ ys)).2) ys) := by
  rcases opening_cut h with heq | ⟨hkind, heq, hcut⟩
  · refine Or.inl ⟨heq, ?_⟩
    rw [first, first, heq, List.take_append_of_le_length h]
  · refine Or.inr ⟨hkind, by rw [first, heq], ?_, hcut⟩
    rw [first, first, heq, List.take_append_of_le_length h, List.take_length]
    exact List.cons_prefix_cons.2 ⟨rfl, List.take_prefix _ xs⟩

/-- A first lexeme that ends before the cut. -/
theorem ofChars_cons_inv {k : Lexeme} {ls : List Lexeme}
    (h : ofChars (xs ++ ys) = k :: ls) (hfits : k.chars.length ≤ xs.length) :
    ∃ c cs, xs = c :: cs ∧ k = first c (cs ++ ys)
      ∧ (opening c (cs ++ ys)).2 ≤ cs.length
      ∧ ls = ofChars (cs.drop (opening c (cs ++ ys)).2 ++ ys) := by
  cases xs with
  | nil =>
    have hk : k ∈ ofChars ([] ++ ys) := h ▸ List.mem_cons_self
    exact absurd (List.eq_nil_of_length_eq_zero (Nat.le_zero.1 hfits))
      (chars_ne_nil hk)
  | cons c cs =>
    rw [List.cons_append, ofChars_cons] at h
    obtain ⟨rfl, rfl⟩ := List.cons.inj h
    rw [length_chars_first, List.length_cons] at hfits
    have hle : (opening c (cs ++ ys)).2 ≤ cs.length := by omega
    exact ⟨c, cs, rfl, rfl, hle, by rw [List.drop_append_of_le_length hle]⟩

/-- A lexeme that starts with letters that the cut makes flags does not end
before the cut. -/
theorem not_cutFlags {F G : List Lexeme} {l : Lexeme}
    (h : ofChars (xs ++ ys) = F ++ l :: G)
    (hfits : total (F ++ [l]) ≤ xs.length) : ¬ CutFlags xs ys := by
  intro hcut
  obtain ⟨k, ls, hk, hlen⟩ : ∃ k ls, ofChars (xs ++ ys) = k :: ls
      ∧ k.chars.length ≤ xs.length := by
    cases F with
    | nil => exact ⟨l, G, h, by simpa using hfits⟩
    | cons k F =>
      rw [List.cons_append, total_cons] at hfits
      exact ⟨k, F ++ l :: G, h, by omega⟩
  obtain ⟨c, cs, rfl, -, hle, -⟩ := ofChars_cons_inv hk hlen
  have := length_lt_of_cutFlags hcut
  omega

/-- All lexemes but the last one that end before a cut are kept by it, and
the last one is kept or grows. -/
theorem ofChars_cut {F G : List Lexeme} {l : Lexeme}
    (h : ofChars (xs ++ ys) = F ++ l :: G)
    (hfits : total (F ++ [l]) ≤ xs.length) :
    ∃ m, F ++ [m] <+: ofChars xs ∧ l.Grows m
      ∧ (total (F ++ [l]) = xs.length → m = l) := by
  induction F generalizing xs with
  | nil =>
    simp only [List.nil_append, total_cons, total_nil,
      Nat.add_zero] at h hfits ⊢
    obtain ⟨c, cs, rfl, rfl, hle, -⟩ := ofChars_cons_inv h hfits
    refine ⟨first c cs, ?_, ?_⟩
    · rw [ofChars_cons]
      exact List.prefix_append [first c cs] _
    rcases first_cut hle with ⟨-, heq⟩ | ⟨hkind, hkind', hchars, hcut⟩
    · exact ⟨Or.inl heq, fun _ => heq⟩
    · refine ⟨Or.inr ⟨hkind, hkind', hchars⟩, fun hall => ?_⟩
      rw [length_chars_first, List.length_cons] at hall
      -- at the cut itself there is no longer word
      have hnil : cs.drop (opening c (cs ++ ys)).2 = [] :=
        List.drop_eq_nil_of_le (by omega)
      exact absurd hnil hcut.1
  | cons k F ih =>
    rw [List.cons_append, total_cons] at hfits
    obtain ⟨c, cs, rfl, rfl, hle, hrest⟩ := ofChars_cons_inv h (by omega)
    rw [length_chars_first, List.length_cons] at hfits
    have hfits' : total (F ++ [l])
        ≤ (cs.drop (opening c (cs ++ ys)).2).length := by
      rw [List.length_drop]
      omega
    -- the lexeme behind this one ends before the cut as well
    have hnocut := not_cutFlags hrest.symm hfits'
    obtain ⟨heq, hfirst⟩ := (first_cut hle).resolve_right
      fun hgrows => hnocut hgrows.2.2.2
    obtain ⟨m, hprefix, hgrows, hexact⟩ := ih hrest.symm hfits'
    refine ⟨m, ?_, hgrows, fun hall => hexact ?_⟩
    · rw [ofChars_cons, hfirst, heq, List.cons_append]
      exact List.cons_prefix_cons.2 ⟨rfl, hprefix⟩
    · rw [List.cons_append, total_cons, length_chars_first,
        List.length_cons] at hall
      rw [List.length_drop]
      omega

-- ==================================================== complete fragments

theorem le_stop_of_mem_place {f : Fragment} {start : Nat} {ls : List Lexeme}
    (h : f ∈ place start ls) : (start : Int) ≤ f.span.stop := by
  obtain ⟨before, l, after, -, rfl⟩ := mem_place_iff.1 h
  simp only [placed]
  omega

/-- The fragments that stop by an offset are the leading ones. -/
theorem exists_filter_stop_le {n start : Nat} (hstart : start ≤ n)
    (ls : List Lexeme) :
    ∃ F G, ls = F ++ G ∧ start + total F ≤ n
      ∧ (place start ls).filter (fun f : Fragment => f.span.stop ≤ (n : Int))
        = place start F := by
  induction ls generalizing start with
  | nil => exact ⟨[], [], rfl, hstart, rfl⟩
  | cons l ls ih =>
    by_cases hl : start + l.chars.length ≤ n
    · obtain ⟨F, G, rfl, hle, hfilter⟩ := ih hl
      refine ⟨l :: F, G, rfl, by rw [total_cons]; omega, ?_⟩
      have hstop : (l.placed start).span.stop ≤ (n : Int) := by
        simp only [placed]
        omega
      rw [place_cons, List.filter_cons_of_pos (by simpa using hstop), hfilter,
        place_cons]
    · refine ⟨[], l :: ls, rfl, hstart, List.filter_eq_nil_iff.2 ?_⟩
      intro f hf hle
      rw [decide_eq_true_eq] at hle
      -- this lexeme stops too late, and so do those behind it
      rcases List.mem_cons.1 hf with rfl | hf
      · change ((start + l.chars.length : Nat) : Int) ≤ n at hle
        omega
      · have := le_stop_of_mem_place hf
        omega

end LogQuery.Lexeme

namespace LogQuery

/-- The first `n` characters of a text. -/
def firstChars (n : Nat) (text : String) : String :=
  String.ofList (text.toList.take n)

theorem scan_of_split {text : String} {F G : List Lexeme} {l : Lexeme}
    (h : Lexeme.ofChars text.toList = F ++ l :: G) :
    ∃ gs, scan text
      = Lexeme.place 0 F ++ l.placed (Lexeme.total F) :: gs := by
  refine ⟨Lexeme.place (Lexeme.total F + l.chars.length) G, ?_⟩
  rw [scan, h, Lexeme.place_append, Nat.zero_add, Lexeme.place_cons]

/-- The fragments that a cut leaves of a query: those before the last
complete one, and what becomes of that one. -/
theorem scan_firstChars {text : String} {n : Nat} {F G : List Lexeme}
    {l : Lexeme} (h : Lexeme.ofChars text.toList = F ++ l :: G)
    (hfits : Lexeme.total (F ++ [l]) ≤ n) :
    ∃ m gs, scan (firstChars n text)
        = Lexeme.place 0 F ++ m.placed (Lexeme.total F) :: gs
      ∧ l.Grows m ∧ (Lexeme.total (F ++ [l]) = n → m = l) := by
  have hlen : (text.toList.take n).length = min n text.toList.length :=
    List.length_take
  have htotal : Lexeme.total (F ++ [l]) ≤ text.toList.length := by
    rw [← Lexeme.total_ofChars, h, Lexeme.total_append, Lexeme.total_append,
      Lexeme.total_cons, Lexeme.total_cons, Lexeme.total_nil]
    omega
  rw [← List.take_append_drop n text.toList] at h
  obtain ⟨m, ⟨G', hprefix⟩, hgrows, hexact⟩ := Lexeme.ofChars_cut h (by omega)
  have hsplit : Lexeme.ofChars (firstChars n text).toList = F ++ m :: G' := by
    rw [firstChars, String.toList_ofList, ← hprefix, List.append_assoc]
    rfl
  obtain ⟨gs, hgs⟩ := scan_of_split hsplit
  exact ⟨m, gs, hgs, hgrows, fun hn => hexact (by omega)⟩

-- ==================================================== finished fragments

/-- The fragments of a query that end within its first `n` characters. -/
def finishedFragments (n : Nat) (text : String) : List Fragment :=
  (scan text).filter (·.span.stop ≤ (n : Int))

/-- The finished fragments are the leading lexemes, as many as fit. -/
theorem exists_finishedFragments (n : Nat) (text : String) :
    ∃ F G, Lexeme.ofChars text.toList = F ++ G ∧ Lexeme.total F ≤ n
      ∧ finishedFragments n text = Lexeme.place 0 F := by
  obtain ⟨F, G, hsplit, hle, hfilter⟩ := Lexeme.exists_filter_stop_le
    (Nat.zero_le n) (Lexeme.ofChars text.toList)
  exact ⟨F, G, hsplit, by omega, hfilter⟩

/-- A cut keeps the finished fragments, unless the last of them is a regular
expression that ends before the cut. Then it keeps those before it, and at the
place of the last one there is a regular expression that takes no less. -/
theorem finished_fragments_stay (text : String) (n : Nat) :
    ((∀ f ∈ (finishedFragments n text).getLast?,
        f.kind = .regexLiteral → f.span.stop = n) →
      finishedFragments n text <+: scan (firstChars n text))
    ∧ ∀ f ∈ (finishedFragments n text).getLast?,
        f.kind = .regexLiteral → f.span.stop ≠ n →
        ∃ g, (finishedFragments n text).dropLast ++ [g]
            <+: scan (firstChars n text)
          ∧ g.kind = .regexLiteral ∧ g.span.start = f.span.start
          ∧ f.span.stop ≤ g.span.stop ∧ f.text.toList <+: g.text.toList := by
  obtain ⟨F, G, hsplit, hle, hfinished⟩ := exists_finishedFragments n text
  rw [hfinished]
  rcases List.eq_nil_or_concat F with rfl | ⟨F, l, rfl⟩
  · exact ⟨fun _ => List.nil_prefix, fun f hf => nomatch hf⟩
  rw [List.concat_eq_append] at hsplit hle ⊢
  rw [List.append_assoc] at hsplit
  obtain ⟨m, gs, hcut, hgrows, hexact⟩ := scan_firstChars hsplit hle
  have hplace : Lexeme.place 0 (F ++ [l])
      = Lexeme.place 0 F ++ [l.placed (Lexeme.total F)] := by
    rw [Lexeme.place_append, Lexeme.place_cons, Lexeme.place_nil, Nat.zero_add]
  have hstop : (l.placed (Lexeme.total F)).span.stop
      = (Lexeme.total (F ++ [l]) : Int) := by
    simp [Lexeme.placed]
  have hkept : Lexeme.place 0 F ++ [m.placed (Lexeme.total F)]
      <+: scan (firstChars n text) := by
    rw [hcut]
    exact (List.prefix_append_right_inj _).2 (List.prefix_append [_] gs)
  rw [hplace, List.getLast?_concat, List.dropLast_concat]
  simp only [Option.mem_some, forall_eq', hstop]
  constructor
  · intro hlast
    have hsame : m = l := by
      by_cases hkind : l.kind = .regexLiteral
      -- only a regular expression grows, and none that stops at the cut
      · exact hexact (Int.natCast_inj.1 (hlast hkind))
      · exact hgrows.eq_of_kind_ne hkind
    rwa [hsame] at hkept
  · intro hkind _
    have hlength := hgrows.prefix_chars.length_le
    refine ⟨_, hkept, hgrows.kind_eq.trans hkind, rfl, ?_, ?_⟩
    · simp only [Lexeme.placed, Lexeme.total_append, Lexeme.total_cons,
        Lexeme.total_nil]
      omega
    · simpa [Lexeme.placed] using hgrows.prefix_chars

/-- The letter behind the expression goes on as a word, and is a flag once the
word is cut off. -/
example :
    finishedFragments 6 "x=/a/ix" = scan "x=/a/"
      ∧ scan (firstChars 6 "x=/a/ix")
        = scan "x=" ++ [⟨.regexLiteral, ⟨2, 6⟩, "/a/i"⟩] := by
  decide +kernel

end LogQuery
