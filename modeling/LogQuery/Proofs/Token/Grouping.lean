/-
Parentheses that only group.

A parenthesis that is no call opens a frame with the meaning of the frame
around it. So a pair of them around a balanced part changes neither what the
part means nor what stands around it, whatever is open there: a filter stays a
filter, and the arguments of a call stay its arguments.

That holds as far as nobody looks at the parentheses themselves. A word before
the pair would become the name of a call, and a comparison before or inside it
would lose what it compares with. The part behind must not start with an opening
bracket or a comparison, which would see the end of the part inside. With that
the query can be read in turn at every seam, with the parentheses as with
parts of their own.
-/
import LogQuery.Proofs.Token.FrameRule
import LogQuery.Proofs.Token.Seam

namespace LogQuery

variable {v : Vocabulary} {fs gs : List Fragment} {f : Fragment} {s : Stack}

-- ============================================================ without numbers

/-- The token with nothing said about the number of its fragment. -/
def Token.unnumbered (t : Token) : Token := { t with fragmentIndex := 0 }

/-- The tokens of the fragments, with nothing said about their numbers. -/
def unnumberedTokens (v : Vocabulary) (fs : List Fragment) (s : Stack) :
    List Token :=
  (classify v fs s).1.map Token.unnumbered

/-- Every fragment that is no layout becomes one token. -/
theorem length_unnumberedTokens (v : Vocabulary) (fs : List Fragment)
    (s : Stack) :
    (unnumberedTokens v fs s).length = (significant fs).length := by
  rw [unnumberedTokens, List.length_map, classify, length_readFrom,
    length_significantFrom, significant]

/-- Without their numbers, tokens of parts that are read in turn are those of
the parts. -/
theorem unnumberedTokens_of_inTurn
    (h : classify v (fs ++ gs) s = classifyInTurn v fs gs s) :
    unnumberedTokens v (fs ++ gs) s
      = unnumberedTokens v fs s
        ++ unnumberedTokens v gs (classify v fs s).2 := by
  rw [unnumberedTokens, h, classifyInTurn, List.map_append, List.map_map]
  rfl

-- ================================================================ parentheses

/-- A part of one fragment, which has no neighbours. -/
theorem classify_singleton (s : Stack) (hf : f.kind.isLayout = false) :
    classify v [f] s
      = ([(⟨0, f⟩ : Numbered).token (categorize v s.current none none f)
          s.current], s.read v none f) := by
  rw [classify, significantFrom_cons_of_not_layout _ _ hf]
  rfl

/-- A parenthesis at the start goes on with what is around it. -/
theorem exists_classify_paren (s : Stack) (hf : f.isPunct "(" = true) :
    ∃ t group, classify v [f] s = ([t], s.push group)
      ∧ group.closer? = some ")"
      ∧ (s.push group).current.Alike s.current := by
  have hcloser : f.closer? = some ")" := if_pos hf
  have hnone : ∀ g ∈ (none : Option Fragment), v.readsFunction g = false := by
    rintro g ⟨⟩
  have hread := classify_singleton (v := v) s (Fragment.isLayout_of_isPunct hf)
  rw [Stack.read_of_closer? none hcloser, openedFrame, if_pos hf,
    parenFrame_of_not_readsFunction _ _ hnone] at hread
  exact ⟨_, _, hread, rfl, rfl, rfl⟩

/-- A closing parenthesis closes the group that is open. -/
theorem exists_classify_closing (s : Stack) {group : Frame}
    (hf : f.isPunct ")" = true) (hgroup : group.closer? = some ")") :
    ∃ t, classify v [f] (s.push group) = ([t], s) := by
  have hcloses : f.isCloser = true := Fragment.isCloser_iff.2 (Or.inl hf)
  have hread := classify_singleton (v := v) (s.push group)
    (Fragment.isLayout_of_isPunct hf)
  rw [Stack.read_of_isCloser none hcloses, (Fragment.isPunct_iff.1 hf).2,
    Stack.close_push hgroup] at hread
  exact ⟨_, hread⟩

/-- A mark that is no operator compares nothing. -/
theorem readsComparison_of_not_isOperator {mark : String}
    (hf : f.isPunct mark = true) (hmark : v.isOperator mark = false) :
    v.readsComparison f = false := by
  rw [Vocabulary.readsComparison, Vocabulary.isComparison,
    (Fragment.isPunct_iff.1 hf).2, hmark, Bool.false_and, Bool.and_false]

/-- A part that is a single mark and no operator has its end. -/
theorem ended_of_mark {mark : String} (hf : f.isPunct mark = true)
    (hmark : v.isOperator mark = false) :
    ∀ g ∈ (significant [f]).getLast?,
      g.kind ≠ .word ∧ v.readsComparison g = false := by
  have hlayout := Fragment.isLayout_of_isPunct hf
  have hsingle : significant [f] = [f] := by
    simp [significant, hlayout]
  rw [hsingle]
  rintro g ⟨⟩
  refine ⟨?_, readsComparison_of_not_isOperator hf hmark⟩
  simp [(Fragment.isPunct_iff.1 hf).1]

-- =========================================================== redundant pairs

section

variable {opening closing : Fragment} {B R : List Fragment}

/-- A closing parenthesis that is no operator is quiet. -/
theorem quiet_of_closing (hclosing : closing.isPunct ")" = true)
    (hparen : v.isOperator ")" = false) :
    ∀ g ∈ (significant (closing :: R)).head?,
      g.closer? = none ∧ v.readsComparison g = false := by
  have hhead : (significant (closing :: R)).head? = some closing := by
    rw [significant, List.filter_cons_of_pos
      (by simp [Fragment.isLayout_of_isPunct hclosing]), List.head?_cons]
  rw [hhead]
  rintro g ⟨⟩
  exact ⟨Fragment.closer?_of_isCloser
      (Fragment.isCloser_iff.2 (Or.inl hclosing)),
    readsComparison_of_not_isOperator hclosing hparen⟩

/-- What follows a closing parenthesis is read as if there were no group. -/
theorem exists_classify_behind_closing (s : Stack) {group : Frame}
    (hclosing : closing.isPunct ")" = true)
    (hparen : v.isOperator ")" = false) (hgroup : group.closer? = some ")") :
    ∃ u, unnumberedTokens v (closing :: R) (s.push group)
        = u :: unnumberedTokens v R s
      ∧ (classify v (closing :: R) (s.push group)).2
        = (classify v R s).2 := by
  obtain ⟨u, hclosed⟩ := exists_classify_closing (v := v) s hclosing hgroup
  have hturn : classify v (closing :: R) (s.push group)
      = classifyInTurn v [closing] R (s.push group) :=
    classify_append_of_ended R (s.push group) (ended_of_mark hclosing hparen)
  refine ⟨u.unnumbered, ?_, ?_⟩
  · rw [← List.singleton_append, unnumberedTokens_of_inTurn hturn, hclosed,
      unnumberedTokens, hclosed]
    rfl
  · rw [hturn, classifyInTurn, hclosed]

/-- A balanced part between parentheses that only group, and what follows. -/
theorem classify_grouped (s : Stack) (hopening : opening.isPunct "(" = true)
    (hclosing : closing.isPunct ")" = true)
    (hparens : v.isOperator "(" = false ∧ v.isOperator ")" = false)
    (hbalanced : Balanced B)
    (hinner : ∀ f ∈ (significant B).getLast?, v.readsComparison f = false) :
    ∃ t u, unnumberedTokens v (opening :: B ++ closing :: R) s
        = t :: unnumberedTokens v B s ++ u :: unnumberedTokens v R s
      ∧ (classify v (opening :: B ++ closing :: R) s).2
        = (classify v R s).2 := by
  obtain ⟨t, group, hopened, hgroup, halike⟩ :=
    exists_classify_paren (v := v) s hopening
  obtain ⟨u, hbehind, hstack⟩ := exists_classify_behind_closing (v := v)
    (R := R) s hclosing hparens.2 hgroup
  -- the seams behind the opening mark and before the closing one
  have hfirst :
      classify v (opening :: B ++ closing :: R) s
        = classifyInTurn v [opening] (B ++ closing :: R) s :=
    classify_append_of_ended (B ++ closing :: R) s
      (ended_of_mark hopening hparens.1)
  have hsecond := classify_append_of_quiet (s.push group) hinner
    (quiet_of_closing (R := R) hclosing hparens.2)
  have hkept : (classify v B (s.push group)).2 = s.push group :=
    classify_balanced_snd hbalanced _
  have hinside :
      unnumberedTokens v B (s.push group) = unnumberedTokens v B s := by
    rw [unnumberedTokens, unnumberedTokens,
      classify_balanced_fst hbalanced halike]
  refine ⟨t.unnumbered, u, ?_, ?_⟩
  · rw [List.cons_append, ← List.singleton_append,
      unnumberedTokens_of_inTurn hfirst, hopened,
      unnumberedTokens_of_inTurn hsecond, hkept, hinside, hbehind,
      unnumberedTokens, hopened]
    rfl
  · calc (classify v (opening :: B ++ closing :: R) s).2
        = (classify v (B ++ closing :: R) (s.push group)).2 := by
          rw [hfirst, classifyInTurn, hopened]
      _ = (classify v (closing :: R) (s.push group)).2 := by
          rw [hsecond, classifyInTurn, hkept]
      _ = (classify v R s).2 := hstack

end

/-- A pair of parentheses around a balanced part, where it makes no call and
parts no comparison, is transparent: all fragments around and inside it become
the same tokens as without it, but for their numbers, and the same brackets are
left open. -/
theorem grouping_is_transparent (v : Vocabulary) (opening closing : Fragment)
    (L B R : List Fragment) (s : Stack)
    (hopening : opening.isPunct "(" = true)
    (hclosing : closing.isPunct ")" = true)
    (hparens : v.isOperator "(" = false ∧ v.isOperator ")" = false)
    (hbalanced : Balanced B)
    (hbefore : ∀ f ∈ (significant L).getLast?,
      f.kind ≠ .word ∧ v.readsComparison f = false)
    (hinner : ∀ f ∈ (significant B).getLast?, v.readsComparison f = false)
    (hbehind : ∀ f ∈ (significant R).head?, ¬ f.isPunct "(" = true
      ∧ ¬ f.isPunct "\x7b" = true ∧ v.readsComparison f = false) :
    (∃ ts us ws t u,
      ts.length = (significant L).length ∧ us.length = (significant B).length
        ∧ ws.length = (significant R).length
        ∧ unnumberedTokens v (L ++ B ++ R) s = ts ++ us ++ ws
        ∧ unnumberedTokens v (L ++ [opening] ++ B ++ [closing] ++ R) s
          = ts ++ [t] ++ us ++ [u] ++ ws)
      ∧ (classify v (L ++ [opening] ++ B ++ [closing] ++ R) s).2
        = (classify v (L ++ B ++ R) s).2 := by
  have hquiet : ∀ g ∈ (significant R).head?,
      g.closer? = none ∧ v.readsComparison g = false := by
    intro g hg
    obtain ⟨hparen, hbrace, hcompares⟩ := hbehind g hg
    exact ⟨Fragment.closer?_of_not_isPunct hparen hbrace, hcompares⟩
  -- the part before is the same start of both
  have hplain := classify_append_of_ended (B ++ R) s hbefore
  have hwith :=
    classify_append_of_ended (opening :: B ++ closing :: R) s hbefore
  obtain ⟨t, u, hgroup, hgroupStack⟩ := classify_grouped (R := R)
    (classify v L s).2 hopening hclosing hparens hbalanced hinner
  have hseam := classify_append_of_quiet (classify v L s).2 hinner hquiet
  have hkept : (classify v B (classify v L s).2).2 = (classify v L s).2 :=
    classify_balanced_snd hbalanced _
  have hlist : L ++ [opening] ++ B ++ [closing] ++ R
      = L ++ (opening :: B ++ closing :: R) := by simp
  rw [hlist, List.append_assoc L B R]
  constructor
  · refine ⟨unnumberedTokens v L s,
      unnumberedTokens v B (classify v L s).2,
      unnumberedTokens v R (classify v L s).2, t, u,
      length_unnumberedTokens v L s, length_unnumberedTokens v B _,
      length_unnumberedTokens v R _, ?_, ?_⟩
    · rw [unnumberedTokens_of_inTurn hplain, unnumberedTokens_of_inTurn hseam,
        hkept, List.append_assoc]
    · rw [unnumberedTokens_of_inTurn hwith, hgroup]
      simp
  · rw [hwith, hplain, classifyInTurn, classifyInTurn, hgroupStack, hseam,
      classifyInTurn, hkept]

/-- A pair around the arguments of a call, which have parentheses of their own:
the key stays a key, and the value a value. -/
theorem grouping_is_transparent_arguments :
    let v := Vocabulary.ofFunctions (.ofList ["count"])
    let opening : Fragment := ⟨.punct, ⟨0, 1⟩, "("⟩
    let closing : Fragment := ⟨.punct, ⟨0, 1⟩, ")"⟩
    let L := scan "count("
    let B := scan "by=1,(2)"
    let R := scan ")"
    Balanced B
      ∧ (∃ ts us ws t u,
        ts.length = (significant L).length
          ∧ us.length = (significant B).length
          ∧ ws.length = (significant R).length
          ∧ unnumberedTokens v (L ++ B ++ R) .empty = ts ++ us ++ ws
          ∧ unnumberedTokens v (L ++ [opening] ++ B ++ [closing] ++ R) .empty
            = ts ++ [t] ++ us ++ [u] ++ ws)
      ∧ (classify v (L ++ [opening] ++ B ++ [closing] ++ R) .empty).2
        = (classify v (L ++ B ++ R) .empty).2
      ∧ (unnumberedTokens v (L ++ [opening] ++ B ++ [closing] ++ R)
          .empty).map (·.category)
        = [.function, .plain, .plain, .argKey, .operator, .value, .plain,
          .plain, .plain, .plain, .plain, .plain] := by
  intro v opening closing L B R
  have hscan : B = ⟨.word, ⟨0, 2⟩, "by"⟩ :: ⟨.punct, ⟨2, 3⟩, "="⟩
      :: ⟨.number, ⟨3, 4⟩, "1"⟩ :: ⟨.punct, ⟨4, 5⟩, ","⟩
      :: (⟨.punct, ⟨5, 6⟩, "("⟩ :: [⟨.number, ⟨6, 7⟩, "2"⟩]
        ++ ⟨.punct, ⟨7, 8⟩, ")"⟩ :: []) := by
    decide +kernel
  have hgroup : Balanced (⟨.punct, ⟨5, 6⟩, "("⟩ :: [⟨.number, ⟨6, 7⟩, "2"⟩]
      ++ ⟨.punct, ⟨7, 8⟩, ")"⟩ :: []) :=
    .bracket rfl rfl (.cons rfl rfl .nil) .nil
  have hbalanced : Balanced B := by
    rw [hscan]
    exact .cons rfl rfl (.cons rfl rfl (.cons rfl rfl (.cons rfl rfl hgroup)))
  have hparens : v.isOperator "(" = false ∧ v.isOperator ")" = false := by
    decide +kernel
  have hbefore : ∀ f ∈ (significant L).getLast?,
      f.kind ≠ .word ∧ v.readsComparison f = false := by
    decide +kernel
  have hinner : ∀ f ∈ (significant B).getLast?,
      v.readsComparison f = false := by
    decide +kernel
  have hbehind : ∀ f ∈ (significant R).head?, ¬ f.isPunct "(" = true
      ∧ ¬ f.isPunct "\x7b" = true ∧ v.readsComparison f = false := by
    decide +kernel
  obtain ⟨htokens, hstack⟩ := grouping_is_transparent v opening closing L B R
    .empty rfl rfl hparens hbalanced hbefore hinner hbehind
  exact ⟨hbalanced, htokens, hstack, by decide +kernel⟩

end LogQuery
