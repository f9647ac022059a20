/-
Keys, operators and values fit together.

A key is a word with a comparison right behind it, and a value has one right
before it. Reading decides this fragment by fragment, with a look at both
neighbours; here it is read off the finished tokens, where a comparison is an
operator with a certain text.

Why the two views agree: in a query, what reads as a comparison is a
punctuation mark, so it is no call and always becomes an operator. And neither
a comparison nor anything that can be compared is a bracket, so a key, its
operator and its value have one context.
-/
import LogQuery.Proofs.Token.Bracket
import LogQuery.Proofs.Token.Operator

namespace LogQuery

open Text

variable {v : Vocabulary} {functions : NameSet} {query text : String}
variable {f g : Fragment} {s : Stack} {i : Nat} {n m : Numbered}

-- =============================================================== comparisons

/-- Operators that compare a field with a value. -/
def Operator.comparisons : List String :=
  ["<=>", ":=", "!=", "==", ">=", "<=", "=", "<", ">"]

/-- Comparisons are the operators written with symbols that join nothing. -/
theorem Operator.mem_comparisons_iff {op : String} :
    op ∈ comparisons ↔ op ∈ symbols ∧ lower op ∉ connectives := by
  have hsome : ∀ op ∈ comparisons, op ∈ symbols ∧ lower op ∉ connectives := by
    decide +kernel
  have hall : ∀ op ∈ symbols, lower op ∉ connectives → op ∈ comparisons := by
    decide +kernel
  exact ⟨hsome op, fun h => hall op h.1 h.2⟩

/-- A fragment with the text of a symbol is a punctuation mark. -/
theorem kind_of_mem_symbols (hf : f ∈ scan text)
    (hop : f.text ∈ Operator.symbols) : f.kind = .punct := by
  obtain ⟨p, c, -, -, hfirst⟩ := exists_first_of_mem_scan hf
  have hchars : f.text.toList
      = (Lexeme.first c (text.toList.drop (p + 1))).chars := by
    rw [hfirst, Lexeme.placed, String.toList_ofList]
  have hstarts : f.text.toList <+: c :: text.toList.drop (p + 1) := by
    rw [hchars]
    exact List.cons_prefix_cons.2 ⟨rfl, List.take_prefix _ _⟩
  rw [hfirst, Lexeme.placed, Lexeme.first,
    Lexeme.opening_of_symbol hop hstarts]

/-- In a query, what compares are the punctuation marks that are
comparisons. -/
theorem readsComparison_iff (hf : f ∈ scan text) :
    (Vocabulary.ofFunctions functions).readsComparison f = true
      ↔ f.text ∈ Operator.comparisons := by
  have hlanguage := Vocabulary.ofLanguage_ofFunctions functions
  have hcompares : (Vocabulary.ofFunctions functions).isComparison f.text = true
      ↔ (lower f.text ∈ Operator.words ∨ f.text ∈ Operator.symbols)
        ∧ lower f.text ∉ Operator.connectives := by
    rw [Vocabulary.isComparison, Bool.and_eq_true, Vocabulary.isOperator_iff,
      hlanguage.words, hlanguage.symbols, Bool.not_eq_true',
      ← Bool.not_eq_true, NameSet.contains_iff]
    exact and_congr_right fun _ => not_congr NameSet.mem_ofList
  have hwords : ∀ w ∈ Operator.words, w ∈ Operator.connectives := by decide
  rw [Vocabulary.readsComparison, Bool.and_eq_true, hcompares,
    Operator.mem_comparisons_iff]
  constructor
  · rintro ⟨-, hword | hsymbol, hjoins⟩
    · exact absurd (hwords _ hword) hjoins
    · exact ⟨hsymbol, hjoins⟩
  · rintro ⟨hsymbol, hjoins⟩
    refine ⟨?_, Or.inr hsymbol, hjoins⟩
    simp [kind_of_mem_symbols hf hsymbol]

/-- In a query, a word is an operator if it is one of the words. -/
theorem readsOperator_iff_of_word (hf : f ∈ scan text)
    (hword : f.kind = .word) :
    (Vocabulary.ofFunctions functions).readsOperator f = true
      ↔ lower f.text ∈ Operator.words := by
  have hlanguage := Vocabulary.ofLanguage_ofFunctions functions
  rw [Vocabulary.readsOperator, Bool.and_eq_true, Vocabulary.isOperator_iff,
    hlanguage.words, hlanguage.symbols]
  constructor
  · rintro ⟨-, hop | hop⟩
    · exact hop
    · rw [kind_of_mem_symbols hf hop] at hword
      cases hword
  · intro hop
    exact ⟨by simp [hword], Or.inl hop⟩

/-- A comparison is no other mark. -/
theorem isPunct_of_comparison {mark : String}
    (hop : f.text ∈ Operator.comparisons)
    (hmark : mark ∉ Operator.comparisons) : f.isPunct mark = false := by
  rw [Bool.eq_false_iff]
  intro hpunct
  obtain ⟨-, rfl⟩ := Fragment.isPunct_iff.1 hpunct
  exact hmark hop

-- ==================================================== brackets along a query

/-- The brackets that are open before token number `i` of a query that is read
with the brackets of `s` open at first. -/
def openFrom (v : Vocabulary) (query : String) (s : Stack) (i : Nat) : Stack :=
  (readFrom v none s ((significantOf query).take i)).2

/-- The category of the fragment with number `i`, layout left out. -/
def categoryAt (v : Vocabulary) (query : String) (s : Stack) (i : Nat)
    (f : Fragment) : Category :=
  categorize v (openFrom v query s i).current (fragmentBefore? query i)
    ((significantOf query)[i + 1]?.map (·.fragment)) f

theorem getElem?_classifyQuery :
    (classifyQuery v query s).1[i]?
      = (significantOf query)[i]?.map fun n : Numbered =>
          n.token (categoryAt v query s i n.fragment)
            (openFrom v query s i).current :=
  getElem?_readFrom none s (significantOf query) i

theorem mem_scan_of_significantOf (hn : (significantOf query)[i]? = some n) :
    n.fragment ∈ scan query := by
  obtain ⟨-, hget, -⟩ :=
    getElem?_of_mem_significantFrom (List.mem_of_getElem? hn)
  exact List.mem_of_getElem? hget

/-- Behind a fragment that is no bracket the same brackets are open. -/
theorem openFrom_succ (hn : (significantOf query)[i]? = some n)
    (hopens : n.fragment.closer? = none)
    (hcloses : n.fragment.isCloser = false) :
    openFrom v query s (i + 1) = openFrom v query s i := by
  rw [openFrom, List.take_add_one, hn, Option.toList_some, readFrom_append_snd]
  exact Stack.read_of_not_bracket _ hopens hcloses

/-- What is no punctuation is no bracket. -/
theorem openFrom_succ_of_not_punct (hn : (significantOf query)[i]? = some n)
    (hkind : n.fragment.kind ≠ .punct) :
    openFrom v query s (i + 1) = openFrom v query s i := by
  have hmark : ∀ mark, n.fragment.isPunct mark = false := by
    intro mark
    simp [Fragment.isPunct, hkind]
  refine openFrom_succ hn ?_ ?_
  · simp [Fragment.closer?, hmark]
  · simp [Fragment.isCloser, hmark]

/-- A comparison is no bracket. -/
theorem openFrom_succ_of_comparison (hn : (significantOf query)[i]? = some n)
    (hop : n.fragment.text ∈ Operator.comparisons) :
    openFrom v query s (i + 1) = openFrom v query s i := by
  have hbrackets : ∀ mark ∈ ["(", ")", "\x7b", "\x7d"],
      mark ∉ Operator.comparisons := by
    decide
  have hmark : ∀ mark ∈ ["(", ")", "\x7b", "\x7d"],
      n.fragment.isPunct mark = false := fun mark hmark =>
    isPunct_of_comparison hop (hbrackets mark hmark)
  refine openFrom_succ hn ?_ ?_
  · simp [Fragment.closer?, hmark]
  · simp [Fragment.isCloser, hmark]

/-- A comparison compares with what comes behind it. -/
theorem any_fragmentBefore?_succ (hn : (significantOf query)[i]? = some n)
    (hop : n.fragment.text ∈ Operator.comparisons) :
    (fragmentBefore? query (i + 1)).any
      (Vocabulary.ofFunctions functions).readsComparison = true := by
  rw [fragmentBefore?_succ hn, Option.any_some]
  exact (readsComparison_iff (mem_scan_of_significantOf hn)).2 hop

-- =========================================================== tokens in a row

/-- The token is an operator that compares. -/
structure Token.Compares (t : Token) : Prop where
  category : t.category = .operator
  text : t.text ∈ Operator.comparisons

/-- Among the tokens, `u` comes right behind `t`. -/
def Follows (ts : List Token) (t u : Token) : Prop :=
  ∃ i, ts[i]? = some t ∧ ts[i + 1]? = some u

/-- A token is one of the fragments, with its category. -/
theorem exists_of_mem_classifyQuery {t : Token}
    (ht : t ∈ (classifyQuery v query s).1) :
    ∃ (i : Nat) (n : Numbered), (significantOf query)[i]? = some n
      ∧ t = n.token (categoryAt v query s i n.fragment)
        (openFrom v query s i).current := by
  obtain ⟨i, hi⟩ := List.getElem?_of_mem ht
  rw [getElem?_classifyQuery] at hi
  obtain ⟨n, hn, rfl⟩ := Option.map_eq_some_iff.1 hi
  exact ⟨i, n, hn, rfl⟩

/-- Two tokens in a row are two fragments in a row. -/
theorem follows_iff {t u : Token} :
    Follows (classifyQuery v query s).1 t u
      ↔ ∃ (i : Nat) (n m : Numbered), (significantOf query)[i]? = some n
        ∧ (significantOf query)[i + 1]? = some m
        ∧ t = n.token (categoryAt v query s i n.fragment)
          (openFrom v query s i).current
        ∧ u = m.token (categoryAt v query s (i + 1) m.fragment)
          (openFrom v query s (i + 1)).current := by
  simp only [Follows, getElem?_classifyQuery, Option.map_eq_some_iff]
  constructor
  · rintro ⟨i, ⟨n, hn, rfl⟩, m, hm, rfl⟩
    exact ⟨i, n, m, hn, hm, rfl, rfl⟩
  · rintro ⟨i, n, m, hn, hm, rfl, rfl⟩
    exact ⟨i, ⟨n, hn, rfl⟩, m, hm, rfl⟩

/-- A token that is made of a fragment is the token of that fragment. -/
theorem fragment_of_madeOf {category : Category} {frame : Frame}
    (hn : (significantOf query)[i]? = some n)
    (h : (n.token category frame).MadeOf query f) : n.fragment = f := by
  obtain ⟨-, hget, -⟩ :=
    getElem?_of_mem_significantFrom (List.mem_of_getElem? hn)
  rw [Nat.sub_zero] at hget
  exact Option.some.inj (hget.symm.trans h.number)

/-- A category that is told by place is told by the context and the
neighbours. -/
theorem byPlace_of_categoryAt {c : Category}
    (h : categoryAt v query s i f = c) (hc : c.isByPlace = true) :
    categorizeByPlace v (openFrom v query s i).current.context
      (fragmentBefore? query i)
      ((significantOf query)[i + 1]?.map (·.fragment)) f = c := by
  obtain ⟨-, -, -, -, hplace⟩ := (categorize_eq_byPlace hc).1 h
  exact hplace

/-- A comparison becomes an operator wherever it stands. -/
theorem categoryAt_comparison (hn : (significantOf query)[i]? = some n)
    (hop : n.fragment.text ∈ Operator.comparisons) :
    categoryAt (.ofFunctions functions) query s i n.fragment = .operator := by
  have hsymbol := (Operator.mem_comparisons_iff.1 hop).1
  have hkind := kind_of_mem_symbols (mem_scan_of_significantOf hn) hsymbol
  refine categorize_eq_operator.2 ⟨?_, ?_⟩
  · rw [Vocabulary.readsOperator, Bool.and_eq_true, Vocabulary.isOperator_iff,
      (Vocabulary.ofLanguage_ofFunctions functions).symbols]
    exact ⟨by simp [hkind], Or.inr hsymbol⟩
  · rw [Bool.eq_false_iff]
    intro hcall
    rw [kind_of_readsCall hcall] at hkind
    cases hkind

/-- The fragment right behind, if it compares, is a token that compares. -/
theorem exists_follows_of_next (hn : (significantOf query)[i]? = some n)
    (hnext : ((significantOf query)[i + 1]?.map (·.fragment)).any
      (Vocabulary.ofFunctions functions).readsComparison = true) :
    ∃ m, (significantOf query)[i + 1]? = some m
      ∧ ∃ u, u.Compares ∧ u.text = m.fragment.text
        ∧ Follows (classifyQuery (.ofFunctions functions) query s).1
          (n.token (categoryAt (.ofFunctions functions) query s i n.fragment)
            (openFrom (.ofFunctions functions) query s i).current) u := by
  obtain ⟨g, hg, hcompares⟩ := (Option.any_eq_true _ _).1 hnext
  obtain ⟨m, hm, rfl⟩ := Option.map_eq_some_iff.1 hg
  have hop := (readsComparison_iff (mem_scan_of_significantOf hm)).1 hcompares
  exact ⟨m, hm, _, ⟨categoryAt_comparison hm hop, hop⟩, rfl,
    follows_iff.2 ⟨i, n, m, hn, hm, rfl, rfl⟩⟩

/-- The fragment right before, if it compares, is a token that compares. -/
theorem exists_follows_of_previous (hn : (significantOf query)[i]? = some n)
    (hprevious : (fragmentBefore? query i).any
      (Vocabulary.ofFunctions functions).readsComparison = true) :
    ∃ u, u.Compares
      ∧ Follows (classifyQuery (.ofFunctions functions) query s).1 u
        (n.token (categoryAt (.ofFunctions functions) query s i n.fragment)
          (openFrom (.ofFunctions functions) query s i).current) := by
  obtain ⟨g, hg, hcompares⟩ := (Option.any_eq_true _ _).1 hprevious
  obtain ⟨j, m, rfl, hm, rfl⟩ := exists_of_fragmentBefore? hn hg
  have hop := (readsComparison_iff (mem_scan_of_significantOf hm)).1 hcompares
  exact ⟨_, ⟨categoryAt_comparison hm hop, hop⟩,
    follows_iff.2 ⟨j, m, n, hm, hn, rfl, rfl⟩⟩

-- ====================================================== beside a comparison

/-- A number or a string behind a comparison is a value. -/
theorem categorize_behind_comparison {frame : Frame}
    {previous? next? : Option Fragment}
    (hkind : f.kind = .number ∨ f.kind = .quotedString)
    (hprevious : previous?.any v.readsComparison = true)
    (hframe : frame.context ≠ .matchBody) :
    categorize v frame previous? next? f = .value := by
  have hcall : v.readsCall next? f = false := by
    rcases hkind with hkind | hkind
    all_goals simp [Vocabulary.readsCall, Vocabulary.readsFunction, hkind]
  have hoperator : v.readsOperator f = false := by
    rcases hkind with hkind | hkind
    all_goals simp [Vocabulary.readsOperator, hkind]
  have hplace : categorizeByPlace v frame.context previous? next? f
      = .value := by
    refine categorizeByPlace_eq_value.2 ⟨?_, hprevious, hframe, ?_⟩
    · rcases hkind with hkind | hkind
      all_goals rw [hkind, Fragment.Kind.isOperand]
    · intro hword
      rcases hkind with hkind | hkind
      all_goals
        rw [hkind] at hword
        cases hword
  refine (categorize_eq_byPlace rfl).2 ⟨?_, ?_, hcall, hoperator, hplace⟩
  all_goals
    rcases hkind with hkind | hkind
    all_goals simp [hkind]

/-- A word behind a comparison has a meaning of its own. -/
theorem categorize_ne_plain_of_word {frame : Frame}
    {previous? next? : Option Fragment} (hword : f.kind = .word)
    (hprevious : previous?.any v.readsComparison = true)
    (hframe : frame.context ≠ .matchBody) :
    categorize v frame previous? next? f ≠ .plain := by
  intro hplain
  obtain ⟨-, -, -, -, hplace⟩ := (categorize_eq_byPlace rfl).1 hplain
  have hoperand : f.kind.isOperand = true := by rw [hword]; rfl
  unfold categorizeByPlace at hplace
  rw [if_neg hframe, hoperand, hprevious] at hplace
  split at hplace
  · cases hplace
  split at hplace
  · cases hplace
  · cases hplace

/-- A word before a comparison, if it is no operator itself, is a key. -/
theorem categorize_before_comparison (frame : Frame)
    (previous? : Option Fragment) (hword : f.kind = .word)
    (hoperator : v.readsOperator f = false) (hparen : g.isPunct "(" = false)
    (hcompares : v.readsComparison g = true) :
    (frame.context = .topLevel →
        categorize v frame previous? (some g) f = .filterKey)
      ∧ (frame.context = .functionArgs → g.isPunct "=" = true →
        categorize v frame previous? (some g) f = .argKey) := by
  have hcall : v.readsCall (some g) f = false := by
    rw [Vocabulary.readsCall, Option.any_some, hparen, Bool.and_false]
  have hcomment : f.kind ≠ .comment := by simp [hword]
  have hregex : f.kind ≠ .regexLiteral := by simp [hword]
  constructor
  · intro hframe
    exact (categorize_eq_byPlace rfl).2 ⟨hcomment, hregex, hcall, hoperator,
      categorizeByPlace_eq_filterKey.2 ⟨hword, hcompares, hframe⟩⟩
  · intro hframe hassigns
    exact (categorize_eq_byPlace rfl).2 ⟨hcomment, hregex, hcall, hoperator,
      categorizeByPlace_eq_argKey.2 ⟨hword, hcompares, hassigns, hframe⟩⟩

/-- In a query, a word before a comparison is a key, unless it is one of the
words that are operators. -/
theorem categoryAt_before_comparison (s : Stack)
    (hn : (significantOf query)[i]? = some n)
    (hm : (significantOf query)[i + 1]? = some m)
    (hword : n.fragment.kind = .word)
    (hlower : lower n.fragment.text ∉ Operator.words)
    (hop : m.fragment.text ∈ Operator.comparisons) :
    let v := Vocabulary.ofFunctions functions
    ((openFrom v query s i).current.context = .topLevel →
        categoryAt v query s i n.fragment = .filterKey)
      ∧ ((openFrom v query s i).current.context = .functionArgs →
        m.fragment.text = "=" →
        categoryAt v query s i n.fragment = .argKey) := by
  intro v
  have hf := mem_scan_of_significantOf hn
  have hg := mem_scan_of_significantOf hm
  -- a symbol of the language is always a fragment of its own kind
  have hpunct : m.fragment.kind = .punct :=
    kind_of_mem_symbols hg (Operator.mem_comparisons_iff.1 hop).1
  have hoperator : v.readsOperator n.fragment = false := by
    rw [Bool.eq_false_iff]
    intro hreads
    exact hlower ((readsOperator_iff_of_word hf hword).1 hreads)
  have hparen : m.fragment.isPunct "(" = false :=
    isPunct_of_comparison hop (by decide)
  rw [categoryAt, hm, Option.map_some]
  obtain ⟨hfilter, hargument⟩ := categorize_before_comparison
    (openFrom v query s i).current (fragmentBefore? query i) hword hoperator
    hparen ((readsComparison_iff hg).2 hop)
  refine ⟨hfilter, fun hcontext htext => hargument hcontext ?_⟩
  simp [Fragment.isPunct, hpunct, htext]

/-- In the body of a `match` nothing is told by its place. -/
theorem categorize_of_matchBody {frame : Frame}
    {previous? next? : Option Fragment} (hframe : frame.context = .matchBody) :
    categorize v frame previous? next? f
      ∈ [Category.function, .operator, .regex, .comment, .plain] := by
  have hcategorized := categorized_categorize v frame previous? next? f
  generalize categorize v frame previous? next? f = c at hcategorized ⊢
  cases hcategorized with
  | byPlace _ _ _ _ hplace =>
    rw [categorizeByPlace, if_pos hframe] at hplace
    rw [← hplace]
    decide
  | _ => decide

-- ============================================================ whole queries

/-- Keys, comparisons and values among the tokens of a query, each beside the
others that it needs. -/
structure FitTogether (query : String) (ts : List Token) : Prop where
  filterKey : ∀ t ∈ ts, t.category = .filterKey →
    t.context = .topLevel ∧ ∃ u, Follows ts t u ∧ u.Compares
  argKey : ∀ t ∈ ts, t.category = .argKey →
    t.context = .functionArgs
      ∧ ∃ u, Follows ts t u ∧ u.category = .operator ∧ u.text = "="
  value : ∀ t ∈ ts, t.category = .value →
    t.context ≠ .matchBody ∧ ∃ u, Follows ts u t ∧ u.Compares
  /-- Numbers and strings behind a comparison are values. -/
  literal : ∀ t u f, Follows ts t u → t.Compares → t.context ≠ .matchBody →
    u.MadeOf query f → f.kind = .number ∨ f.kind = .quotedString →
    u.category = .value
  /-- Words behind a comparison have a meaning. -/
  word : ∀ t u f, Follows ts t u → t.Compares → t.context ≠ .matchBody →
    u.MadeOf query f → f.kind = .word → u.category ≠ .plain
  /-- Words before a comparison are keys, unless they are operators. -/
  key : ∀ t u f, Follows ts t u → u.Compares → t.MadeOf query f →
    f.kind = .word → lower f.text ∉ Operator.words →
    (u.context = .topLevel → t.category = .filterKey)
      ∧ (u.context = .functionArgs → u.text = "=" → t.category = .argKey)
  body : ∀ t ∈ ts, t.context = .matchBody →
    t.category ∈ [Category.function, .operator, .regex, .comment, .plain]

/-- Whatever functions are known and whatever brackets are open at first, the
keys, comparisons and values of a query fit together. -/
theorem keys_and_values_fit (functions : NameSet) (query : String) (s : Stack) :
    FitTogether query (classifyQuery (.ofFunctions functions) query s).1 where
  filterKey t ht hcategory := by
    obtain ⟨i, n, hn, rfl⟩ := exists_of_mem_classifyQuery ht
    have hplace := byPlace_of_categoryAt hcategory (by rfl)
    obtain ⟨-, hnext, hcontext⟩ := categorizeByPlace_eq_filterKey.1 hplace
    obtain ⟨m, -, u, hu, -, hfollows⟩ := exists_follows_of_next hn hnext
    exact ⟨hcontext, u, hfollows, hu⟩
  argKey t ht hcategory := by
    obtain ⟨i, n, hn, rfl⟩ := exists_of_mem_classifyQuery ht
    have hplace := byPlace_of_categoryAt hcategory (by rfl)
    obtain ⟨-, hnext, hassigns, hcontext⟩ :=
      categorizeByPlace_eq_argKey.1 hplace
    obtain ⟨m, hm, u, hu, htext, hfollows⟩ := exists_follows_of_next hn hnext
    rw [hm, Option.map_some, Option.any_some] at hassigns
    exact ⟨hcontext, u, hfollows, hu.category,
      htext.trans (Fragment.isPunct_iff.1 hassigns).2⟩
  value t ht hcategory := by
    obtain ⟨i, n, hn, rfl⟩ := exists_of_mem_classifyQuery ht
    have hplace := byPlace_of_categoryAt hcategory (by rfl)
    obtain ⟨-, hprevious, hcontext, -⟩ := categorizeByPlace_eq_value.1 hplace
    obtain ⟨u, hu, hfollows⟩ := exists_follows_of_previous hn hprevious
    exact ⟨hcontext, u, hfollows, hu⟩
  literal t u f hfollows ht hcontext hmade hkind := by
    obtain ⟨i, n, m, hn, hm, rfl, rfl⟩ := follows_iff.1 hfollows
    obtain rfl := fragment_of_madeOf hm hmade
    -- the comparison changes no frame, so the context is the same
    refine categorize_behind_comparison hkind
      (any_fragmentBefore?_succ hn ht.text) ?_
    rwa [openFrom_succ_of_comparison hn ht.text]
  word t u f hfollows ht hcontext hmade hword := by
    obtain ⟨i, n, m, hn, hm, rfl, rfl⟩ := follows_iff.1 hfollows
    obtain rfl := fragment_of_madeOf hm hmade
    refine categorize_ne_plain_of_word hword
      (any_fragmentBefore?_succ hn ht.text) ?_
    rwa [openFrom_succ_of_comparison hn ht.text]
  key t u f hfollows hu hmade hword hlower := by
    obtain ⟨i, n, m, hn, hm, rfl, rfl⟩ := follows_iff.1 hfollows
    obtain rfl := fragment_of_madeOf hn hmade
    have hsame : openFrom (.ofFunctions functions) query s (i + 1)
        = openFrom (.ofFunctions functions) query s i :=
      openFrom_succ_of_not_punct hn (by simp [hword])
    rw [hsame]
    exact categoryAt_before_comparison s hn hm hword hlower hu.text
  body t ht hcontext := by
    obtain ⟨i, n, hn, rfl⟩ := exists_of_mem_classifyQuery ht
    exact categorize_of_matchBody hcontext

/-- In a chain of comparisons a word can be compared on both sides, and a
called function is never a key. -/
example :
    (tokens (.ofFunctions (.ofList ["now"])) "a=b:=1 c=now()").map (·.category)
      = [.filterKey, .operator, .filterKey, .operator, .value, .filterKey,
        .operator, .function, .plain, .plain] := by
  decide +kernel

end LogQuery
