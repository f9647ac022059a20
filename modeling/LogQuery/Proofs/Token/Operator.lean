/-
Operators are fragments of their own.

Operators are looked for twice. Scanning keeps the compound ones together and
takes any other mark by itself; a vocabulary looks for the longest operator
that starts a text. Where a fragment starts the two agree: if an operator
stands there, it is the fragment, and no other fragment starts with an
operator. For what an operator starts with starts no word, no number and
nothing between slashes or quotes, and a compound operator is longer than the
single marks.

So reading tags as operators those punctuation marks at which the vocabulary
finds an operator in the query. Words are no marks, and no mark is one of the
words that are operators, in whatever case.
-/
import LogQuery.Proofs.Fragment.Boundary
import LogQuery.Proofs.Token.Category
import LogQuery.Proofs.Token.Coverage
import LogQuery.Proofs.Token.Point
import LogQuery.Proofs.Vocabulary

namespace LogQuery

open Fragment Text

variable {v : Vocabulary} {op text : String} {f : Fragment}
variable {c : Char} {cs : List Char}

-- ================================================================== symbols

/-- Operators of one symbol. -/
def Operator.marks : List String :=
  Operator.symbols.filter fun op => op.length ≤ 1

theorem Operator.symbols_eq : symbols = compound ++ marks := by decide

/-- The operators of a vocabulary are those of the language. What functions
it knows does not matter. -/
structure Vocabulary.OfLanguage (v : Vocabulary) : Prop where
  symbols : ∀ op, op ∈ v.operators ↔ op ∈ Operator.symbols
  words : ∀ w, w ∈ v.wordOperators ↔ w ∈ Operator.words

theorem Vocabulary.ofLanguage_ofFunctions (functions : NameSet) :
    (ofFunctions functions).OfLanguage where
  symbols _ := mem_longestFirst
  words _ := NameSet.mem_ofList

/-- A compound operator is found before a single mark. -/
theorem Vocabulary.OfLanguage.leadingOperator?_eq (hv : v.OfLanguage)
    (cs : List Char) :
    v.leadingOperator? cs
      = (compoundAt? cs).or
          (Operator.marks.find? (·.toList.isPrefixOf cs)) := by
  have hempty : ∀ op, op ∈ v.operators ↔ op ∈ empty.operators := by
    intro op
    exact (hv.symbols op).trans
      ((ofLanguage_ofFunctions .empty).symbols op).symm
  have hsymbols : empty.operators = Operator.symbols := by decide
  rw [leadingOperator?_congr hempty, leadingOperator?, hsymbols,
    Operator.symbols_eq, List.find?_append]
  rfl

namespace Lexeme

/-- Characters that start a punctuation mark, whatever follows. -/
def isSign (c : Char) : Bool :=
  !isBlank c && !isDigit c && !isLetter c
    && !(['/', '"', '_', '@', '#'].contains c)

theorem opening_of_isSign (hc : isSign c = true) (cs : List Char) :
    opening c cs = (.punct, punctExtent c cs) := by
  obtain ⟨hblank, hdigit, hletter, hslash, hquote, hline, hat, hhash⟩ :
      isBlank c = false ∧ isDigit c = false ∧ isLetter c = false
        ∧ c ≠ '/' ∧ c ≠ '"' ∧ c ≠ '_' ∧ c ≠ '@' ∧ c ≠ '#' := by
    simpa [isSign, and_assoc] using hc
  have hword : startsWord c cs = false := by
    simp [startsWord, hletter, hline, hat, hhash]
  rw [opening_of_bare ⟨hblank, hslash, hquote⟩, hdigit, hword]
  rfl

/-- What starts with an operator starts with a punctuation mark. -/
theorem opening_of_symbol (hop : op ∈ Operator.symbols)
    (hstarts : op.toList <+: c :: cs) :
    opening c cs = (.punct, punctExtent c cs) := by
  have hsigns : ∀ op ∈ Operator.symbols,
      op.toList.head?.any isSign = true := by
    decide +kernel
  obtain ⟨d, hhead, hd⟩ := (Option.any_eq_true _ _).1 (hsigns op hop)
  obtain ⟨rest, hrest⟩ := List.head?_eq_some_iff.1 hhead
  rw [hrest] at hstarts
  obtain ⟨rfl, -⟩ := List.cons_prefix_cons.1 hstarts
  exact opening_of_isSign hd cs

/-- The operator that a vocabulary finds at the start of a lexeme is the
lexeme. -/
theorem first_of_leadingOperator? (hv : v.OfLanguage)
    (h : v.leadingOperator? (c :: cs) = some op) :
    first c cs = ⟨.punct, op.toList⟩ := by
  obtain ⟨hop, hstarts⟩ := Vocabulary.mem_of_leadingOperator? h
  have hlength : punctExtent c cs + 1 = op.toList.length := by
    rw [hv.leadingOperator?_eq] at h
    rw [punctExtent_eq]
    cases hcompound : compoundAt? (c :: cs) with
    | some q =>
      rw [hcompound, Option.some_or] at h
      -- a compound operator, which the extent is that of
      obtain rfl := Option.some.inj h
      have htwo := (compound_spec (prefix_of_compoundAt? hcompound).1).2
      rw [String.length_toList] at htwo ⊢
      show q.length - 1 + 1 = q.length
      omega
    | none =>
      rw [hcompound, Option.none_or] at h
      -- a single mark, which takes nothing along
      have hmark : ∀ q ∈ Operator.marks, q.toList.length = 1 := by decide
      exact (hmark op (List.mem_of_find?_eq_some h)).symm
  have hchars : c :: cs.take (punctExtent c cs) = op.toList := by
    rw [← List.take_succ_cons, hlength]
    exact (List.prefix_iff_eq_take.1 hstarts).symm
  rw [first, opening_of_symbol ((hv.symbols op).1 hop) hstarts, hchars]

/-- A lexeme that is one of the operators is what a vocabulary finds there. -/
theorem leadingOperator?_of_first (hv : v.OfLanguage)
    (hop : op ∈ v.operators) (h : first c cs = ⟨.punct, op.toList⟩) :
    v.leadingOperator? (c :: cs) = some op := by
  have hstarts : op.toList <+: c :: cs := by
    have hchars := congrArg Lexeme.chars h
    rw [← show (first c cs).chars = op.toList from hchars, first]
    exact List.cons_prefix_cons.2 ⟨rfl, List.take_prefix _ cs⟩
  obtain ⟨q, hq⟩ := Vocabulary.exists_leadingOperator? hop hstarts
  have hsame : q.toList = op.toList :=
    congrArg Lexeme.chars ((first_of_leadingOperator? hv hq).symm.trans h)
  rw [hq, String.toList_inj.1 hsame]

/-- Punctuation is a compound operator or a single character. -/
theorem chars_of_punct (h : (first c cs).kind = .punct) :
    (∃ op ∈ Operator.compound, (first c cs).chars = op.toList)
      ∨ (first c cs).chars = [c] := by
  rw [first] at h ⊢
  have hopens := opens_opening c cs
  generalize opening c cs = o at h hopens ⊢
  cases hopens with
  | slash => exact Or.inr rfl
  | mark =>
    rw [punctExtent_eq]
    cases hcompound : compoundAt? (c :: cs) with
    | none => exact Or.inr rfl
    | some op =>
      obtain ⟨hop, hstarts⟩ := prefix_of_compoundAt? hcompound
      have htwo := (compound_spec hop).2
      rw [String.length_toList] at htwo
      refine Or.inl ⟨op, hop, ?_⟩
      have hlength : op.length - 1 + 1 = op.toList.length := by
        rw [String.length_toList]
        omega
      show c :: cs.take (op.length - 1) = op.toList
      rw [← List.take_succ_cons, hlength]
      exact (List.prefix_iff_eq_take.1 hstarts).symm
  | _ => cases h

end Lexeme

-- ==================================================================== words

/-- A single character in lower case is one character, or an i with a dot put
on it. -/
theorem lowerChar_cases (c : Char) :
    (∃ d, lowerChar c = [d]) ∨ lowerChar c = ['i', '\u0307'] := by
  unfold lowerChar
  split
  · exact Or.inl ⟨_, rfl⟩
  split
  · exact Or.inr rfl
  split
  · exact Or.inl ⟨_, rfl⟩
  · exact Or.inl ⟨_, rfl⟩

/-- No single character is an operator written as a word. -/
theorem lower_singleton_notMem_words (c : Char) :
    lower (String.ofList [c]) ∉ Operator.words := by
  have hchars : lower (String.ofList [c]) = String.ofList (lowerChar c) := by
    simp [lower, lowerFrom]
  have hwords : ∀ w ∈ Operator.words, 2 ≤ w.toList.length
      ∧ w.toList.head? ≠ some 'i' := by
    decide
  intro hmem
  obtain ⟨hlong, hhead⟩ := hwords _ hmem
  rw [hchars, String.toList_ofList] at hlong hhead
  rcases lowerChar_cases c with ⟨d, hd⟩ | hd
  · rw [hd] at hlong
    exact absurd hlong (by simp)
  · rw [hd] at hhead
    exact hhead rfl

/-- No punctuation mark of a query is an operator written as a word. -/
theorem lower_notMem_words (hf : f ∈ scan text) (hkind : f.kind = .punct) :
    lower f.text ∉ Operator.words := by
  obtain ⟨p, c, -, -, hfirst⟩ := exists_first_of_mem_scan hf
  have hcompound : ∀ op ∈ Operator.compound, lower op ∉ Operator.words := by
    decide +kernel
  have htext : f.text = String.ofList
      (Lexeme.first c (text.toList.drop (p + 1))).chars := by
    rw [hfirst]
    rfl
  rw [hfirst] at hkind
  rcases Lexeme.chars_of_punct hkind with ⟨op, hop, hchars⟩ | hchars
  · rw [htext, hchars, String.ofList_toList]
    exact hcompound op hop
  · rw [htext, hchars]
    exact lower_singleton_notMem_words c

-- ================================================================ in a query

/-- At the start of a fragment an operator is found if the fragment is one. -/
theorem operatorAt?_start_iff (hv : v.OfLanguage) (hf : f ∈ scan text) :
    v.operatorAt? text f.span.start = some op
      ↔ f.kind = .punct ∧ f.text = op ∧ op ∈ v.operators := by
  obtain ⟨p, c, hp, hc, hfirst⟩ := exists_first_of_mem_scan hf
  obtain ⟨hlt, rfl⟩ := List.getElem?_eq_some_iff.1 hc
  rw [hp, Vocabulary.operatorAt?_of_le v (Nat.le_of_lt hlt),
    List.drop_eq_getElem_cons hlt, hfirst]
  constructor
  · intro h
    rw [Lexeme.first_of_leadingOperator? hv h]
    exact ⟨rfl, String.ofList_toList, (Vocabulary.mem_of_leadingOperator? h).1⟩
  · rintro ⟨hkind, htext, hop⟩
    apply Lexeme.leadingOperator?_of_first hv hop
    generalize Lexeme.first _ _ = l at hkind htext ⊢
    obtain ⟨kind, chars⟩ := l
    obtain rfl : kind = .punct := hkind
    rw [← htext, Lexeme.placed, String.toList_ofList]

/-- A punctuation mark is read as an operator where one is found. -/
theorem readsOperator_iff_operatorAt? (hv : v.OfLanguage)
    (hf : f ∈ scan text) (hkind : f.kind = .punct) :
    v.readsOperator f = true
      ↔ (v.operatorAt? text f.span.start).isSome = true := by
  have hword : lower f.text ∉ v.wordOperators := by
    rw [hv.words]
    exact lower_notMem_words hf hkind
  have hreads : v.readsOperator f = v.isOperator f.text := by
    simp [Vocabulary.readsOperator, hkind]
  rw [hreads, Vocabulary.isOperator_iff, Option.isSome_iff_exists]
  constructor
  · intro h
    have hop := h.resolve_left hword
    exact ⟨f.text, (operatorAt?_start_iff hv hf).2 ⟨hkind, rfl, hop⟩⟩
  · rintro ⟨op, hop⟩
    obtain ⟨-, rfl, hmem⟩ := (operatorAt?_start_iff hv hf).1 hop
    exact Or.inr hmem

/-- A token has the category that its fragment gets in some frame, between
some neighbours. -/
theorem exists_categorize_of_madeOf {t : Token} {s : Stack}
    (ht : t ∈ (classifyQuery v text s).1) (hmade : t.MadeOf text f) :
    ∃ frame previous? next?,
      t.category = categorize v frame previous? next? f := by
  obtain ⟨i, hi⟩ := List.getElem?_of_mem ht
  rw [classifyQuery, classify, getElem?_readFrom] at hi
  obtain ⟨n, hn, rfl⟩ := Option.map_eq_some_iff.1 hi
  obtain ⟨-, hget, -⟩ :=
    getElem?_of_mem_significantFrom (List.mem_of_getElem? hn)
  have hnumber := hmade.number
  rw [Nat.sub_zero] at hget
  obtain rfl : n.fragment = f := Option.some.inj (hget.symm.trans hnumber)
  exact ⟨_, _, _, rfl⟩

/-- Every fragment that is no layout becomes a token. -/
theorem exists_token_madeOf (v : Vocabulary) (s : Stack) (hf : f ∈ scan text)
    (hlayout : f.kind.isLayout = false) :
    ∃ t ∈ (classifyQuery v text s).1, t.MadeOf text f := by
  obtain ⟨t, ht, hspan⟩ := exists_token_of_mem_scan v s hf hlayout
  obtain ⟨g, hg⟩ := exists_madeOf ht
  obtain rfl : g = f :=
    eq_of_start_eq hg.mem hf (congrArg Span.start (hg.span.trans hspan))
  exact ⟨t, ht, hg⟩

/-- Where a fragment starts a vocabulary finds an operator if the fragment is
a punctuation mark and one of the operators, and then finds that one. So
punctuation marks are tagged as operators where the vocabulary finds one in
the query. -/
theorem operators_are_fragments (hv : v.OfLanguage) (hf : f ∈ scan text) :
    (∀ op, v.operatorAt? text f.span.start = some op
        ↔ f.kind = .punct ∧ f.text = op ∧ op ∈ v.operators)
      ∧ (f.kind = .punct → ∀ s,
        (∃ t ∈ (classifyQuery v text s).1, t.MadeOf text f)
          ∧ ∀ t ∈ (classifyQuery v text s).1, t.MadeOf text f →
            (t.category = .operator
              ↔ (v.operatorAt? text f.span.start).isSome = true)) := by
  refine ⟨fun op => operatorAt?_start_iff hv hf, fun hkind s => ⟨?_, ?_⟩⟩
  · exact exists_token_madeOf v s hf (by rw [hkind]; rfl)
  · intro t ht hmade
    obtain ⟨frame, previous?, next?, hcategory⟩ :=
      exists_categorize_of_madeOf ht hmade
    have hcall : v.readsCall next? f = false := by
      by_contra h
      have hword := kind_of_readsCall (Bool.not_eq_false _ ▸ h)
      rw [hkind] at hword
      cases hword
    rw [hcategory, categorize_eq_operator, hcall,
      readsOperator_iff_operatorAt? hv hf hkind]
    exact and_iff_left rfl

/-- A compound operator between two words is found, and tagged, as one. -/
theorem operators_are_fragments_compound :
    let f : Fragment := ⟨.punct, ⟨1, 3⟩, ">="⟩
    Vocabulary.empty.OfLanguage ∧ f ∈ scan "a>=b"
      ∧ Vocabulary.empty.operatorAt? "a>=b" 1 = some ">="
      ∧ ∃ t ∈ tokens .empty "a>=b",
        t.MadeOf "a>=b" f ∧ t.category = .operator := by
  intro f
  have hv : Vocabulary.empty.OfLanguage :=
    Vocabulary.ofLanguage_ofFunctions .empty
  have hf : f ∈ scan "a>=b" := by decide +kernel
  have hop : ">=" ∈ Vocabulary.empty.operators := by decide
  obtain ⟨hfound, htagged⟩ := operators_are_fragments hv hf
  have hat := (hfound ">=").2 ⟨rfl, rfl, hop⟩
  obtain ⟨⟨t, ht, hmade⟩, htags⟩ := htagged rfl .empty
  have hcategory := (htags t ht hmade).2 (Option.isSome_of_eq_some hat)
  exact ⟨hv, hf, hat, t, ht, hmade, hcategory⟩

end LogQuery
