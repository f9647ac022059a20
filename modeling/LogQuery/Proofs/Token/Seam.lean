/-
Reading a query in two parts.

A query that comes in parts can be read part by part: the brackets that one
part leaves open are handed to the next. Nothing else is handed on, and reading
also looks at the fragment before and at the fragment behind. So what is lost
is what is seen across the seam.

# How far reading sees

Forwards only a word is looked beyond, for the parenthesis of a call and for a
comparison, and what is seen there decides nothing but a category. Backwards an
opening bracket looks at a word, and that decides the meaning of its frame; all
other fragments look back for a comparison alone, and again it decides nothing
but a category. A first part that ends in neither a word nor a comparison
loses nothing. Any first part loses two categories at most, unless the second
part starts with an opening bracket.
-/
import LogQuery.Proofs.Token.Bracket

namespace LogQuery

variable {v : Vocabulary}

-- ====================================================== fragments further on

/-- The fragment as it is numbered behind `k` more fragments. -/
def Numbered.later (n : Numbered) (k : Nat) : Numbered :=
  { n with index := n.index + k }

/-- The token as it is numbered behind `k` more fragments. -/
def Token.later (t : Token) (k : Nat) : Token :=
  { t with fragmentIndex := t.fragmentIndex + k }

theorem significantFrom_add (start k : Nat) (fs : List Fragment) :
    significantFrom (start + k) fs
      = (significantFrom start fs).map (·.later k) := by
  induction fs generalizing start with
  | nil => rfl
  | cons f fs ih =>
    have hstart : start + k + 1 = start + 1 + k := by omega
    cases hlayout : f.kind.isLayout with
    | true =>
      rw [significantFrom_cons_of_layout _ _ hlayout,
        significantFrom_cons_of_layout _ _ hlayout, hstart, ih]
    | false =>
      rw [significantFrom_cons_of_not_layout _ _ hlayout,
        significantFrom_cons_of_not_layout _ _ hlayout, hstart, ih]
      rfl

/-- Numbers are handed through to the tokens and mean nothing else. -/
theorem readFrom_later (k : Nat) (previous? : Option Fragment) (s : Stack)
    (ns : List Numbered) :
    readFrom v previous? s (ns.map (·.later k))
      = ((readFrom v previous? s ns).1.map (·.later k),
        (readFrom v previous? s ns).2) := by
  induction ns generalizing previous? s with
  | nil => rfl
  | cons n ns ih =>
    have hnext : (ns.map (·.later k)).head?.map (·.fragment)
        = ns.head?.map (·.fragment) := by
      cases ns with
      | nil => rfl
      | cons m ns => rfl
    rw [List.map_cons, readFrom_cons, readFrom_cons, hnext]
    simp only [Numbered.later] at ih ⊢
    rw [ih]
    rfl

-- ========================================================== across the seam

/-- Only a word is looked beyond. -/
theorem categorize_of_not_word {frame : Frame} {f : Fragment}
    (previous? next? next?' : Option Fragment) (h : f.kind ≠ .word) :
    categorize v frame previous? next? f
      = categorize v frame previous? next?' f := by
  simp [categorize, Vocabulary.readsFunction, h]

/-- What neither opens a call nor compares is as good as the end. -/
theorem categorize_of_quiet {frame : Frame} {previous? next? : Option Fragment}
    (f : Fragment) (hparen : next?.any (·.isPunct "(") = false)
    (hcompares : next?.any v.readsComparison = false) :
    categorize v frame previous? next? f
      = categorize v frame previous? none f := by
  simp [categorize, hparen, hcompares]

/-- Only an opening bracket looks back for a word. -/
theorem Stack.read_of_not_opens (s : Stack) {f : Fragment}
    (previous? previous?' : Option Fragment) (h : f.closer? = none) :
    s.read v previous? f = s.read v previous?' f := by
  cases hcloses : f.isCloser with
  | true => rw [read_of_isCloser _ hcloses, read_of_isCloser _ hcloses]
  | false =>
    rw [read_of_not_bracket _ h hcloses, read_of_not_bracket _ h hcloses]

/-- Before an opening bracket, what is no word is like nothing. -/
theorem Stack.read_behind_not_word (s : Stack) {g : Fragment} (f : Fragment)
    (h : g.kind ≠ .word) : s.read v (some g) f = s.read v none f := by
  simp [read, parenFrame, braceFrame, Option.filter, Fragment.word?,
    Vocabulary.readsFunction, h]

/-- Behind a fragment that is neither a word nor a comparison, reading goes
on as if nothing stood there. -/
theorem readFrom_behind {g : Fragment} (s : Stack) (ms : List Numbered)
    (hword : g.kind ≠ .word) (hcompares : v.readsComparison g = false) :
    readFrom v (some g) s ms = readFrom v none s ms := by
  cases ms with
  | nil => rfl
  | cons m ms =>
    have hprevious : (some g).any v.readsComparison
        = (none : Option Fragment).any v.readsComparison := hcompares
    rw [readFrom_cons, readFrom_cons, s.read_behind_not_word _ hword,
      categorize_congr m.fragment rfl hprevious rfl]

-- =================================================== the two ways of reading

/-- The tokens of two parts that are read in turn, the second one with the
brackets that the first one leaves open, and the brackets open at the end. -/
def classifyInTurn (v : Vocabulary) (fs gs : List Fragment) (s : Stack) :
    List Token × Stack :=
  let first := classify v fs s
  let second := classify v gs first.2
  (first.1 ++ second.1.map (·.later fs.length), second.2)

/-- The token with nothing said about its category. -/
def Token.uncolored (t : Token) : Token := { t with category := .plain }

/-- Tokens that agree in everything but the categories of the tokens before
and behind a seam, which comes after the first `n` tokens. -/
def AgreeButAtSeam (n : Nat) (ts us : List Token) : Prop :=
  ts.map Token.uncolored = us.map Token.uncolored
    ∧ ∀ i, i + 1 ≠ n → i ≠ n → ts[i]? = us[i]?

theorem agreeButAtSeam_append {ts bs bs' : List Token} {a a' : Token}
    (hlast : a.uncolored = a'.uncolored)
    (hfirst : bs.map Token.uncolored = bs'.map Token.uncolored)
    (hrest : bs.tail = bs'.tail) :
    AgreeButAtSeam (ts.length + 1) (ts ++ a :: bs) (ts ++ a' :: bs') := by
  constructor
  · rw [List.map_append, List.map_append, List.map_cons, List.map_cons, hlast,
      hfirst]
  · intro i hbefore hbehind
    by_cases hi : i < ts.length
    · rw [List.getElem?_append_left hi, List.getElem?_append_left hi]
    · -- both tokens at the seam are passed, so what is left is in the tails
      obtain ⟨j, rfl⟩ : ∃ j, i = ts.length + (j + 1 + 1) :=
        ⟨i - ts.length - 2, by omega⟩
      rw [List.getElem?_append_right (by omega),
        List.getElem?_append_right (by omega), Nat.add_sub_cancel_left,
        List.getElem?_cons_succ, List.getElem?_cons_succ,
        ← List.getElem?_tail, ← List.getElem?_tail, hrest]

/-- What stands before the fragments is seen by the first of them alone. If it
opens and closes the same frames either way, only its category can differ. -/
theorem readFrom_congr_previous {s : Stack} {ms : List Numbered}
    {previous? previous?' : Option Fragment}
    (h : ∀ m ∈ ms.head?,
      s.read v previous? m.fragment = s.read v previous?' m.fragment) :
    (readFrom v previous? s ms).2 = (readFrom v previous?' s ms).2
      ∧ (readFrom v previous? s ms).1.map Token.uncolored
        = (readFrom v previous?' s ms).1.map Token.uncolored
      ∧ (readFrom v previous? s ms).1.tail
        = (readFrom v previous?' s ms).1.tail := by
  cases ms with
  | nil => exact ⟨rfl, rfl, rfl⟩
  | cons m ms =>
    rw [readFrom_cons, readFrom_cons, h m rfl]
    exact ⟨rfl, rfl, rfl⟩

/-- A first part that ends in `n`, and what follows it: the tokens before `n`
are those of the first part on its own, the category of `n` sees what follows,
and what follows sees `n`. -/
theorem readFrom_concat_append (previous? : Option Fragment) (s : Stack)
    (ns : List Numbered) (n : Numbered) (ms : List Numbered) :
    readFrom v previous? s (ns ++ n :: ms)
      = ((readFrom v previous? s (ns ++ [n])).1.take ns.length
          ++ n.token (categorize v (readFrom v previous? s ns).2.current
              (lastBefore previous? ns) (ms.head?.map (·.fragment)) n.fragment)
              (readFrom v previous? s ns).2.current
          :: (readFrom v (some n.fragment)
              (readFrom v previous? s (ns ++ [n])).2 ms).1,
        (readFrom v (some n.fragment)
          (readFrom v previous? s (ns ++ [n])).2 ms).2) := by
  have hbefore :=
    @take_readFrom_append v (n :: ms) [n] previous? s ns rfl
  have hbehind := @drop_readFrom_append v previous? s ns (n :: ms)
  have hsplit := List.take_append_drop ns.length
    (readFrom v previous? s (ns ++ n :: ms)).1
  refine Prod.ext ?_ ?_
  · rw [← hsplit, hbefore, hbehind, readFrom_cons,
      readFrom_append_snd previous? s ns [n]]
    rfl
  · rw [readFrom_append_snd, readFrom_append_snd previous? s ns [n]]
    rfl

/-- Reading both parts at once goes beyond the seam with the number of the
fragments before it. -/
theorem classify_append (fs gs : List Fragment) (s : Stack) :
    classify v (fs ++ gs) s
      = readFrom v none s (significantFrom 0 fs
        ++ (significantFrom 0 gs).map (·.later fs.length)) := by
  rw [classify, significantFrom_append, significantFrom_add]

/-- Reading in turn, as one reading of the second part's fragments with the
numbers that they have in the whole. -/
theorem classifyInTurn_eq (fs gs : List Fragment) (s : Stack) :
    classifyInTurn v fs gs s
      = ((classify v fs s).1 ++ (readFrom v none (classify v fs s).2
            ((significantFrom 0 gs).map (·.later fs.length))).1,
        (readFrom v none (classify v fs s).2
          ((significantFrom 0 gs).map (·.later fs.length))).2) := by
  rw [readFrom_later]
  rfl

theorem classify_append_of_layout {fs : List Fragment} (gs : List Fragment)
    (s : Stack) (h : significantFrom 0 fs = []) :
    classify v (fs ++ gs) s = classifyInTurn v fs gs s := by
  rw [classify_append, classifyInTurn_eq, classify, h]
  rfl

theorem getLast?_significant {fs : List Fragment} {ns : List Numbered}
    {n : Numbered} (h : significantFrom 0 fs = ns ++ [n]) :
    (significant fs).getLast? = some n.fragment := by
  rw [← map_fragment_significantFrom 0, h, List.map_append, List.map_singleton,
    List.getLast?_concat]

theorem head?_later_significantFrom (k : Nat) (gs : List Fragment) :
    ((significantFrom 0 gs).map (·.later k)).head?.map (·.fragment)
      = (significant gs).head? := by
  rw [← map_fragment_significantFrom 0, List.head?_map, List.head?_map,
    Option.map_map]
  rfl

/-- Both ways of reading, when the first part ends in `n`: they differ in the
category of `n`, if that looks ahead, and in whether the second part sees
`n`. -/
theorem exists_seam {fs : List Fragment} {ns : List Numbered} {n : Numbered}
    (gs : List Fragment) (s : Stack) (h : significantFrom 0 fs = ns ++ [n]) :
    ∃ ts t t' ms,
      (classify v fs s).1.length = ts.length + 1
        ∧ t.uncolored = t'.uncolored
        ∧ ((∀ frame previous?,
            categorize v frame previous? (significant gs).head? n.fragment
              = categorize v frame previous? none n.fragment) → t = t')
        ∧ ms.head?.map (·.fragment) = (significant gs).head?
        ∧ classify v (fs ++ gs) s
          = (ts ++ t :: (readFrom v (some n.fragment)
                (classify v fs s).2 ms).1,
            (readFrom v (some n.fragment) (classify v fs s).2 ms).2)
        ∧ classifyInTurn v fs gs s
          = (ts ++ t' :: (readFrom v none (classify v fs s).2 ms).1,
            (readFrom v none (classify v fs s).2 ms).2) := by
  have hpart : classify v fs s = readFrom v none s (ns ++ [n]) := by
    rw [classify, h]
  have hwhole := @classify_append v fs gs s
  rw [h, List.append_assoc, List.singleton_append, readFrom_concat_append,
    ← hpart] at hwhole
  -- the first part is the case in which nothing follows
  have hlast := congrArg Prod.fst (hpart.trans
    (readFrom_concat_append none s ns n []))
  rw [← hpart, List.head?_nil, Option.map_none] at hlast
  have hlen := congrArg List.length hlast
  rw [List.length_append, List.length_cons] at hlen
  have hturn := @classifyInTurn_eq v fs gs s
  rw [hlast, List.append_assoc, List.cons_append] at hturn
  refine ⟨_, _, _, _, hlen, ?_, ?_,
    head?_later_significantFrom fs.length gs, hwhole, hturn⟩
  · rfl
  -- `n` is seen with what follows, and with nothing behind it
  · intro hahead
    rw [head?_later_significantFrom, hahead]

/-- Behind a part that ends in neither a word nor a comparison, reading goes on
as at the start of a query. -/
theorem classify_append_of_ended {fs : List Fragment} (gs : List Fragment)
    (s : Stack) (hlast : ∀ f ∈ (significant fs).getLast?,
      f.kind ≠ .word ∧ v.readsComparison f = false) :
    classify v (fs ++ gs) s = classifyInTurn v fs gs s := by
  rcases List.eq_nil_or_concat (significantFrom 0 fs) with hnil | ⟨ns, n, heq⟩
  · exact classify_append_of_layout gs s hnil
  rw [List.concat_eq_append] at heq
  obtain ⟨ts, t, t', ms, -, -, hsame, -, hwhole, hturn⟩ :=
    exists_seam (v := v) gs s heq
  obtain ⟨hword, hcompares⟩ := hlast n.fragment (getLast?_significant heq)
  rw [hwhole, hturn, readFrom_behind _ ms hword hcompares,
    hsame fun _ _ => categorize_of_not_word _ _ none hword]

/-- Before a part that starts with neither an opening bracket nor a comparison,
reading stops as at the end of a query, if the last fragment is no comparison
either. -/
theorem classify_append_of_quiet {fs gs : List Fragment} (s : Stack)
    (hlast : ∀ f ∈ (significant fs).getLast?, v.readsComparison f = false)
    (hfirst : ∀ g ∈ (significant gs).head?,
      g.closer? = none ∧ v.readsComparison g = false) :
    classify v (fs ++ gs) s = classifyInTurn v fs gs s := by
  rcases List.eq_nil_or_concat (significantFrom 0 fs) with hnil | ⟨ns, n, heq⟩
  · exact classify_append_of_layout gs s hnil
  rw [List.concat_eq_append] at heq
  obtain ⟨ts, t, t', ms, -, -, hsame, hhead, hwhole, hturn⟩ :=
    exists_seam (v := v) gs s heq
  have hcompares := hlast n.fragment (getLast?_significant heq)
  have hquiet : ∀ frame previous?,
      categorize v frame previous? (significant gs).head? n.fragment
        = categorize v frame previous? none n.fragment := by
    intro frame previous?
    cases hg : (significant gs).head? with
    | none => rfl
    | some g =>
      obtain ⟨hopens, hnext⟩ := hfirst g hg
      have hparen := (Fragment.not_isPunct_of_closer? hopens).1
      exact categorize_of_quiet _ (Bool.eq_false_iff.2 hparen) hnext
  rw [hwhole, hturn, hsame hquiet]
  -- what follows looks back no further than its first fragment
  cases ms with
  | nil => rfl
  | cons m ms =>
    have hopens := (hfirst m.fragment hhead.symm).1
    have hprevious : (some n.fragment).any v.readsComparison
        = (none : Option Fragment).any v.readsComparison := hcompares
    rw [readFrom_cons, readFrom_cons, Stack.read_of_not_opens _ _ none hopens,
      categorize_congr m.fragment rfl hprevious rfl]

/-- Two parts of a query can be read in turn, the second one with the brackets
that the first one leaves open. If the first part ends in neither a word nor a
comparison, that gives the tokens of the whole and leaves the same brackets
open. For any first part, unless the second starts with an opening bracket, it
leaves the same brackets open, and the tokens differ in the categories at the
seam at most. -/
theorem classify_in_parts (v : Vocabulary) (fs gs : List Fragment)
    (s : Stack) :
    ((∀ f ∈ (significant fs).getLast?,
          f.kind ≠ .word ∧ v.readsComparison f = false) →
        classify v (fs ++ gs) s = classifyInTurn v fs gs s)
      ∧ ((∀ f ∈ (significant gs).head?,
          ¬ f.isPunct "(" = true ∧ ¬ f.isPunct "\x7b" = true) →
        (classify v (fs ++ gs) s).2 = (classifyInTurn v fs gs s).2
          ∧ AgreeButAtSeam (classify v fs s).1.length
              (classify v (fs ++ gs) s).1 (classifyInTurn v fs gs s).1) := by
  refine ⟨classify_append_of_ended gs s, fun hopens => ?_⟩
  rcases List.eq_nil_or_concat (significantFrom 0 fs) with hnil | ⟨ns, n, heq⟩
  · rw [classify_append_of_layout gs s hnil]
    exact ⟨rfl, rfl, fun _ _ _ => rfl⟩
  rw [List.concat_eq_append] at heq
  obtain ⟨ts, t, t', ms, hlen, huncolored, -, hhead, hwhole, hturn⟩ :=
    exists_seam (v := v) gs s heq
  rw [hwhole, hturn]
  have hread : ∀ m ∈ ms.head?,
      (classify v fs s).2.read v (some n.fragment) m.fragment
        = (classify v fs s).2.read v none m.fragment := by
    intro m hm
    obtain ⟨hparen, hbrace⟩ :=
      hopens m.fragment (hhead ▸ Option.mem_map_of_mem _ hm)
    exact Stack.read_of_not_opens _ _ _
      (Fragment.closer?_of_not_isPunct hparen hbrace)
  obtain ⟨hstack, hfirst, hrest⟩ := readFrom_congr_previous hread
  rw [hlen]
  exact ⟨hstack, agreeButAtSeam_append huncolored hfirst hrest⟩

/-- A call cut behind its parenthesis, where nothing is lost, and a filter cut
behind its field, which is then no key. -/
theorem classify_in_parts_call :
    let v := Vocabulary.ofFunctions (.ofList ["count"])
    (∀ f ∈ (significant (scan "count(")).getLast?,
        f.kind ≠ .word ∧ v.readsComparison f = false)
      ∧ classify v (scan "count(" ++ scan "by=1)") .empty
        = classifyInTurn v (scan "count(") (scan "by=1)") .empty
      ∧ (∀ f ∈ (significant (scan "=200")).head?,
        ¬ f.isPunct "(" = true ∧ ¬ f.isPunct "\x7b" = true)
      ∧ (classify v (scan "status" ++ scan "=200") .empty).2
        = (classifyInTurn v (scan "status") (scan "=200") .empty).2
      ∧ AgreeButAtSeam (classify v (scan "status") .empty).1.length
        (classify v (scan "status" ++ scan "=200") .empty).1
        (classifyInTurn v (scan "status") (scan "=200") .empty).1
      ∧ (classify v (scan "status" ++ scan "=200") .empty).1
        ≠ (classifyInTurn v (scan "status") (scan "=200") .empty).1 := by
  intro v
  have hends : ∀ f ∈ (significant (scan "count(")).getLast?,
      f.kind ≠ .word ∧ v.readsComparison f = false := by
    decide +kernel
  have hstarts : ∀ f ∈ (significant (scan "=200")).head?,
      ¬ f.isPunct "(" = true ∧ ¬ f.isPunct "\x7b" = true := by
    decide +kernel
  have hcall :=
    (classify_in_parts v (scan "count(") (scan "by=1)") .empty).1 hends
  obtain ⟨hstack, htokens⟩ :=
    (classify_in_parts v (scan "status") (scan "=200") .empty).2 hstarts
  exact ⟨hends, hcall, hstarts, hstack, htokens, by decide +kernel⟩

end LogQuery
