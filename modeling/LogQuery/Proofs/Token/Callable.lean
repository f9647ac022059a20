/-
Names that queries can call.

A list of function names can hold any texts. But reading only ever looks up
the texts of words, and the text of a word is a word again when it is scanned
alone. So a name that is no word decides nothing in any query. A name that is
a word does: with a parenthesis behind it it is still that word, and then it
is called.
-/
import LogQuery.Proofs.Fragment.Boundary
import LogQuery.Proofs.NameSet
import LogQuery.Proofs.Token.Category
import LogQuery.Proofs.Token.Lookup

namespace LogQuery

open Fragment

variable {v : Vocabulary} {names : NameSet} {n : String}

-- ================================================================== words

/-- The name is scanned as one word. -/
def IsOneWord (name : String) : Prop := (scan name).map (·.kind) = [.word]

instance : DecidablePred IsOneWord := fun name =>
  inferInstanceAs (Decidable ((scan name).map (·.kind) = [.word]))

/-- The members that are words. -/
def NameSet.words (names : NameSet) : NameSet :=
  .ofList (names.toList.filter fun n => IsOneWord n)

@[simp]
theorem NameSet.mem_words : n ∈ names.words ↔ n ∈ names ∧ IsOneWord n := by
  rw [words, mem_ofList, List.mem_filter, decide_eq_true_iff, mem_def]

/-- The text of a word is a word. -/
theorem isOneWord_text {text : String} {f : Fragment} (hf : f ∈ scan text)
    (hword : f.kind = .word) : IsOneWord f.text := by
  rw [IsOneWord, scan_text_of_mem_scan hf, List.map_singleton, hword]

namespace Lexeme

theorem map_kind_place (start : Nat) (ls : List Lexeme) :
    (place start ls).map (·.kind) = ls.map (·.kind) := by
  induction ls generalizing start with
  | nil => rfl
  | cons l ls ih => rw [place_cons, List.map_cons, ih, List.map_cons]; rfl

theorem ofChars_of_isOneWord (h : IsOneWord n) :
    ofChars n.toList = [⟨.word, n.toList⟩] := by
  rw [IsOneWord, scan, map_kind_place] at h
  obtain ⟨l, hl, hkind⟩ := List.map_eq_singleton_iff.1 h
  have hchars := flatMap_chars_ofChars n.toList
  rw [hl, List.flatMap_singleton] at hchars
  rw [hl, ← hkind, ← hchars]

/-- A word starts like one also in front of a character that can not belong
to it. -/
theorem opening_word_stop {c g : Char} {xs : List Char}
    (hg : isWordChar g = false) (hjoint : isJoint g = false)
    (h : (opening c xs).1 = .word) (ys : List Char) :
    opening c (xs ++ g :: ys) = opening c xs := by
  have hopens := opens_opening c xs
  revert h
  generalize hfirst : opening c xs = first at hopens
  intro h
  cases hopens with
  | word hbare hdigit hword =>
    rw [opening_of_bare hbare, hdigit, startsWord_stop hg, hword,
      endsAt_wordExtent_of_stop hg hjoint]
    rfl
  | _ => cases h

/-- A word on its own is the same word in front of a character that can not
belong to it. -/
theorem ofChars_word_stop {g : Char} {cs : List Char}
    (hg : isWordChar g = false) (hjoint : isJoint g = false)
    (h : ofChars cs = [⟨.word, cs⟩]) (ys : List Char) :
    ofChars (cs ++ g :: ys) = ⟨.word, cs⟩ :: ofChars (g :: ys) := by
  cases cs with
  | nil => rw [ofChars_nil] at h; cases h
  | cons c cs =>
    rw [ofChars_cons] at h
    obtain ⟨hfirst, -⟩ := List.cons.inj h
    obtain ⟨hkind, hchars⟩ := Lexeme.mk.inj hfirst
    have hlength := congrArg List.length hchars
    rw [List.length_cons, List.length_cons, Nat.succ_inj,
      List.length_take_of_le (opening_le_length c cs)] at hlength
    have hopening := opening_word_stop hg hjoint hkind ys
    rw [List.cons_append, ofChars_cons, first, hopening, hkind, hlength,
      List.take_left, List.drop_left]

end Lexeme

/-- A word with a parenthesis behind it is scanned as the word and the
parenthesis. -/
theorem scan_call (h : IsOneWord n) :
    scan (n ++ "(")
      = Lexeme.place 0 [⟨.word, n.toList⟩, ⟨.punct, ['(']⟩] := by
  have hparen : Lexeme.ofChars ['('] = [⟨.punct, ['(']⟩] := by decide +kernel
  rw [scan, String.toList_append, show "(".toList = ['('] from rfl,
    Lexeme.ofChars_word_stop (by decide) (by decide)
      (Lexeme.ofChars_of_isOneWord h), hparen]

-- =================================================================== calls

/-- Behind a word, a parenthesis makes a call exactly if the word is a function
name. -/
theorem exists_token_of_call (v : Vocabulary) (s : Stack) (h : IsOneWord n) :
    ∃ t ts, (classifyQuery v (n ++ "(") s).1 = t :: ts ∧ t.text = n
      ∧ (t.category = .function ↔ v.isFunction n = true) := by
  rw [classifyQuery, scan_call h]
  refine ⟨_, _, rfl, String.ofList_toList, ?_⟩
  rw [Numbered.token, categorize_eq_function, Vocabulary.readsCall,
    Bool.and_eq_true, readsFunction_iff]
  simp [Lexeme.placed, significantFrom, isPunct, Kind.isLayout,
    Vocabulary.isFunction]

/-- Two vocabularies with the same words among their function names read a
fragment of a query alike. -/
theorem alikeOn_words {text : String} {f : Fragment} (hf : f ∈ scan text) :
    (v.withFunctions names).AlikeOn (v.withFunctions names.words) f where
  readsFunction := by
    rw [Bool.eq_iff_iff, readsFunction_iff, readsFunction_iff]
    refine and_congr_right fun hword => ?_
    show f.text ∈ names ↔ f.text ∈ names.words
    rw [NameSet.mem_words, and_iff_left (isOneWord_text hf hword)]
  readsOperator := rfl
  readsComparison := rfl

/-- Function names that are no words decide nothing. -/
theorem classifyQuery_words (v : Vocabulary) (names : NameSet) (text : String)
    (s : Stack) :
    classifyQuery (v.withFunctions names) text s
      = classifyQuery (v.withFunctions names.words) text s :=
  classify_alikeOn s fun _ hf => alikeOn_words (List.mem_filter.1 hf).1

theorem NameSet.words_insert (h : ¬ IsOneWord n) :
    (names.insert n).words = names.words := by
  refine ext fun m => ?_
  rw [mem_words, mem_words, mem_insert]
  constructor
  · rintro ⟨rfl | hm, hword⟩
    · exact absurd hword h
    · exact ⟨hm, hword⟩
  · rintro ⟨hm, hword⟩
    exact ⟨Or.inr hm, hword⟩

/-- Of all function names, exactly those that are words can be called. The
others can be left out: any query has the same tokens without them and leaves
the same brackets open. With a parenthesis behind it, a word that is a function
name is called. And a new function name makes a difference in some query
exactly if it is a word. -/
theorem only_words_are_called (v : Vocabulary) (names : NameSet) :
    (∀ text s, classifyQuery (v.withFunctions names) text s
      = classifyQuery (v.withFunctions names.words) text s)
    ∧ (∀ n ∈ names.words, ∀ s, ∃ t ts,
      (classifyQuery (v.withFunctions names) (n ++ "(") s).1 = t :: ts
        ∧ t.category = .function ∧ t.text = n)
    ∧ ∀ n, n ∉ names →
      ((∃ text s, classifyQuery (v.withFunctions (names.insert n)) text s
        ≠ classifyQuery (v.withFunctions names) text s) ↔ IsOneWord n) := by
  refine ⟨classifyQuery_words v names, fun n hn s => ?_, fun n hn => ?_⟩
  · obtain ⟨hmem, hword⟩ := NameSet.mem_words.1 hn
    obtain ⟨t, ts, htokens, htext, hcall⟩ :=
      exists_token_of_call (v.withFunctions names) s hword
    exact ⟨t, ts, htokens, hcall.2 (NameSet.contains_iff.2 hmem), htext⟩
  constructor
  · rintro ⟨text, s, hdiffer⟩
    by_contra hword
    refine hdiffer ?_
    rw [classifyQuery_words v (names.insert n), NameSet.words_insert hword,
      ← classifyQuery_words]
  · intro hword
    -- the call of the new name tells the two apart
    refine ⟨n ++ "(", .empty, fun hsame => hn ?_⟩
    obtain ⟨t, ts, htokens, -, hcall⟩ :=
      exists_token_of_call (v.withFunctions (names.insert n)) .empty hword
    obtain ⟨u, us, htokens', -, hcall'⟩ :=
      exists_token_of_call (v.withFunctions names) .empty hword
    rw [hsame, htokens'] at htokens
    obtain ⟨rfl, -⟩ := List.cons.inj htokens
    have hnew : (v.withFunctions (names.insert n)).isFunction n = true :=
      NameSet.contains_iff.2 (NameSet.mem_insert.2 (Or.inl rfl))
    exact NameSet.contains_iff.1 (hcall'.1 (hcall.2 hnew))

/-- A list with a word of several parts, a saved search and two words with a
blank between them. -/
theorem only_words_are_called_parts :
    let names := NameSet.ofList ["$savedSearch", "math:abs", "my func"]
    let v := Vocabulary.ofFunctions names
    (classifyQuery v "my func($savedSearch(x))" .empty
      = classifyQuery (.ofFunctions names.words) "my func($savedSearch(x))"
        .empty)
    ∧ "math:abs" ∈ names.words
    ∧ (∃ t ts, (classifyQuery v "math:abs(" .empty).1 = t :: ts
      ∧ t.category = .function ∧ t.text = "math:abs")
    ∧ "func" ∉ names
    ∧ (∃ text s, classifyQuery (.ofFunctions (names.insert "func")) text s
      ≠ classifyQuery v text s)
    ∧ "his func" ∉ names
    ∧ ¬ ∃ text s, classifyQuery (.ofFunctions (names.insert "his func")) text s
      ≠ classifyQuery v text s := by
  intro names v
  obtain ⟨hsame, hcalled, hnew⟩ := only_words_are_called .empty names
  have hmem : "math:abs" ∈ names.words := by
    rw [NameSet.mem_words, NameSet.mem_ofList]
    exact ⟨by decide, by decide +kernel⟩
  have hfunc : "func" ∉ names := by
    rw [NameSet.mem_ofList]
    decide
  have hhis : "his func" ∉ names := by
    rw [NameSet.mem_ofList]
    decide
  exact ⟨hsame _ _, hmem, hcalled _ hmem .empty, hfunc,
    (hnew _ hfunc).2 (by decide +kernel), hhis,
    fun h => absurd ((hnew _ hhis).1 h) (by decide +kernel)⟩

end LogQuery
