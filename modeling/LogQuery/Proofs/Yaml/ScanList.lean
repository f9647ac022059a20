/-
Scanning a written list.

Between two items of the list the scan is in the block collection of the
list, in front of a line end or at the start of a line (`AtItem`). A dash and
the item behind it bring it to the next such place and add two tokens, so
the tokens of the whole list are those of its items one after the other.
A key is never required there, which is why the places where one could have
started do not matter.
-/
import LogQuery.Proofs.Yaml.Visible
import LogQuery.Proofs.Yaml.WritePlain
import LogQuery.Yaml.Token.Scan

namespace LogQuery.Yaml

open Writer

namespace TokenScan

-- ==================================================================== keys

/-- None of the keys is required. -/
def FreeKeys (keys : List (Nat × OpenKey)) : Prop :=
  ∀ x ∈ keys, x.2.isRequired = false

theorem exists_dropStaleKeys {s : TokenScan} (h : FreeKeys s.openKeys) :
    ∃ keys, FreeKeys keys
      ∧ s.dropStaleKeys = some { s with openKeys := keys } := by
  unfold dropStaleKeys
  dsimp only
  split
  · next hany =>
    obtain ⟨x, hx, hrequired⟩ := List.any_eq_true.1 hany
    simp [h x hx] at hrequired
  · exact ⟨_, fun x hx => h x (List.mem_of_mem_filter hx), rfl⟩

theorem exists_dropKey {s : TokenScan} (h : FreeKeys s.openKeys) :
    ∃ keys, FreeKeys keys
      ∧ s.dropKey = some { s with openKeys := keys } := by
  unfold dropKey
  cases hkey : s.openKeys.lookup s.flowLevel with
  | none => exact ⟨s.openKeys, h, rfl⟩
  | some k =>
    obtain ⟨before, after, hkeys, -⟩ := List.lookup_eq_some_iff.1 hkey
    have hfree : k.isRequired = false := h (s.flowLevel, k) (by simp [hkeys])
    dsimp only
    rw [hfree, if_neg Bool.false_ne_true]
    exact ⟨_, fun x hx => h x (List.mem_of_mem_filter hx), rfl⟩

/-- A key that starts deeper than the collection is not required. -/
theorem exists_openKey {s : TokenScan} (h : FreeKeys s.openKeys)
    (hdeeper : s.indent < s.cursor.column) :
    ∃ keys, FreeKeys keys
      ∧ s.openKey = some { s with openKeys := keys } := by
  unfold openKey
  split
  · obtain ⟨keys, hfree, hdrop⟩ := exists_dropKey h
    rw [hdrop]
    refine ⟨_, ?_, rfl⟩
    intro x hx
    rcases List.mem_cons.1 hx with rfl | hx
    · have hne : s.indent ≠ s.cursor.column := by omega
      simp [hne]
    · exact hfree x hx
  · exact ⟨s.openKeys, h, rfl⟩

-- ==================================================================== steps

theorem unwind_of_le {s : TokenScan} {column : Int}
    (h : s.indent ≤ column) : s.unwind column = s := by
  unfold unwind
  split
  · rfl
  · rw [unwind.go.eq_def, if_pos h]

/-- Going to the next token of the same collection. -/
theorem exists_approach {s : TokenScan} (h : FreeKeys s.openKeys)
    (hflow : s.flowLevel = 0) {n : Nat} {ended : Bool}
    (hgap : gap false s.cursor.rest = (n, ended))
    (hindent : s.indent ≤ (s.cursor.advance n).column) :
    ∃ keys, FreeKeys keys ∧ s.approach = some { s with
      cursor := s.cursor.advance n
      allowsKey := s.allowsKey || ended
      openKeys := keys } := by
  have hfree : FreeKeys ({ s with
      cursor := s.cursor.advance n
      allowsKey := s.allowsKey || ended } : TokenScan).openKeys := h
  obtain ⟨keys, hkeys, hdrop⟩ := exists_dropStaleKeys hfree
  refine ⟨keys, hkeys, ?_⟩
  have hended : (ended && !s.inFlow) = ended := by simp [inFlow, hflow]
  unfold approach
  rw [hgap]
  dsimp only
  rw [hended, hdrop]
  exact congrArg some (unwind_of_le hindent)

/-- One token more. -/
theorem run_of_next {s s₁ s₂ : TokenScan} {c : Char} {cs : List Char}
    (hgoing : s.isStopped = false) (happroach : s.approach = some s₁)
    (hrest : s₁.cursor.rest = c :: cs) (hnext : s₁.next c cs = some s₂)
    (fuel : Nat) : run (fuel + 1) s = run fuel s₂ := by
  rw [run, hgoing, if_neg Bool.false_ne_true, happroach]
  dsimp only [bind, Option.bind]
  rw [hrest]
  dsimp only
  rw [hnext]

-- ==================================================================== items

/-- The scan is in the block collection at the start of the lines, and has
read some tokens. -/
structure InList (s : TokenScan) (tokens : List Token) : Prop where
  tokens : s.tokens.toList = tokens
  going : s.isStopped = false
  flow : s.flowLevel = 0
  indent : s.indent = 0
  outer : s.outerIndents = [-1]
  keys : FreeKeys s.openKeys

/-- The scan is in front of a line end or behind it, and `rest` follows. -/
structure AtItem (s : TokenScan) (rest : List Char) (tokens : List Token) :
    Prop extends InList s tokens where
  place : s.cursor.rest = '\n' :: rest
    ∨ (s.cursor.At rest 0 ∧ s.allowsKey = true)

theorem InList.inFlow_eq_false {s : TokenScan} {tokens : List Token}
    (h : InList s tokens) : s.inFlow = false := by
  simp [inFlow, h.flow]

/-- A scan that has read more of a list, but no number that is too large. -/
theorem InList.push {s s' : TokenScan} {tokens : List Token} {t : Token}
    (h : InList s tokens) (ht : ∀ n, t ≠ .noCharacter n)
    (htokens : s'.tokens = s.tokens.push t)
    (hflow : s'.flowLevel = s.flowLevel) (hindent : s'.indent = s.indent)
    (houter : s'.outerIndents = s.outerIndents)
    (hkeys : FreeKeys s'.openKeys) : InList s' (tokens ++ [t]) where
  tokens := by rw [htokens, Array.toList_push, h.tokens]
  going := by
    unfold isStopped
    rw [htokens, Array.back?_push]
    cases t <;> first | rfl | exact absurd rfl (ht _)
  flow := hflow.trans h.flow
  indent := hindent.trans h.indent
  outer := houter.trans h.outer
  keys := hkeys

/-- A place from which only the cursor and the keys have changed. -/
theorem InList.move {s s' : TokenScan} {tokens : List Token}
    (h : InList s tokens) (htokens : s'.tokens = s.tokens)
    (hflow : s'.flowLevel = s.flowLevel) (hindent : s'.indent = s.indent)
    (houter : s'.outerIndents = s.outerIndents)
    (hkeys : FreeKeys s'.openKeys) : InList s' tokens where
  tokens := by rw [htokens, h.tokens]
  going := by unfold isStopped; rw [htokens]; exact h.going
  flow := hflow.trans h.flow
  indent := hindent.trans h.indent
  outer := houter.trans h.outer
  keys := hkeys

/-- The next item starts a line. -/
theorem AtItem.exists_approach {s : TokenScan} {rest : List Char}
    {tokens : List Token} (h : AtItem s rest tokens) (hrest : EndsItem rest) :
    ∃ s', s.approach = some s' ∧ InList s' tokens ∧ s'.cursor.At rest 0
      ∧ s'.allowsKey = true := by
  have hnone : gap false rest = (0, false) := by
    rcases hrest with rfl | ⟨more, rfl⟩ <;> rfl
  rcases h.place with hplace | ⟨hplace, hallows⟩
  -- behind an item in marks the line feed is still to be read
  · have hgap : gap false s.cursor.rest = (1, true) := by
      rw [hplace]
      show ((gap false rest).1 + 1, true) = _
      rw [hnone]
    have hat : s.cursor.At ('\n' :: rest) s.cursor.column := ⟨hplace, rfl⟩
    have hcolumn := hat.lineFeed
    obtain ⟨keys, hkeys, happroach⟩ := TokenScan.exists_approach h.keys h.flow
      hgap (by rw [h.indent]; omega)
    exact ⟨_, happroach, h.toInList.move rfl rfl rfl rfl hkeys, hcolumn,
      Bool.or_true _⟩
  -- a plain item has taken it along
  · have hgap : gap false s.cursor.rest = (0, false) := by
      rw [hplace.rest, hnone]
    obtain ⟨keys, hkeys, happroach⟩ := TokenScan.exists_approach h.keys h.flow
      hgap (by rw [h.indent]; omega)
    refine ⟨_, happroach, h.toInList.move rfl rfl rfl rfl hkeys, hplace, ?_⟩
    exact (Bool.or_false _).trans hallows

/-- The dash of an item. -/
theorem InList.exists_entry {s : TokenScan} {body : List Char}
    {tokens : List Token} (h : InList s tokens)
    (hplace : s.cursor.At ('-' :: ' ' :: body) 0)
    (hallows : s.allowsKey = true) :
    ∃ s', s.next '-' (' ' :: body) = some s'
      ∧ InList s' (tokens ++ [.entry]) ∧ s'.cursor.At (' ' :: body) 1
      ∧ s'.allowsKey = true := by
  have hflow := h.inFlow_eq_false
  have hnext : s.next '-' (' ' :: body) = s.entry := by
    simp [next, atDocumentMark, separated, hflow]
  have hopen : s.openBlock .blockSequence = some s := by
    simp [openBlock, hflow, hallows, deepen, h.indent, hplace.column]
  have hfree : FreeKeys ({ s with allowsKey := true } : TokenScan).openKeys :=
    h.keys
  obtain ⟨keys, hkeys, hdrop⟩ := exists_dropKey hfree
  have hentry : s.entry = some (({ s with
      allowsKey := true
      openKeys := keys } : TokenScan).take 1 .entry) := by
    unfold entry
    rw [hopen]
    show (do
      let s ← ({ s with allowsKey := true } : TokenScan).dropKey
      some (s.take 1 .entry)) = _
    rw [hdrop]
    rfl
  have hdash : ∀ c ∈ ['-'], CountsColumn c := by
    simp [CountsColumn, isBreak]
  rw [hnext, hentry]
  exact ⟨_, rfl, h.push (by simp) rfl rfl rfl rfl hkeys, hplace.along hdash,
    rfl⟩

/-- The space between the dash and the item. -/
theorem InList.exists_approach_item {s : TokenScan} {c : Char}
    {cs : List Char} {tokens : List Token} (h : InList s tokens)
    (hplace : s.cursor.At (' ' :: c :: cs) 1)
    (hsep : separated (c :: cs) = false) (hcomment : c ≠ '#')
    (hallows : s.allowsKey = true) :
    ∃ s', s.approach = some s' ∧ InList s' tokens
      ∧ s'.cursor.At (c :: cs) 2 ∧ s'.allowsKey = true := by
  obtain ⟨hspace, -, hbreak⟩ := separated_cons_eq_false.1 hsep
  have hgap : gap false s.cursor.rest = (1, false) := by
    rw [hplace.rest]
    have hblank : isBreak ' ' = false := rfl
    simp [gap, hspace, hcomment, hbreak, hblank]
  have hcounts : ∀ d ∈ [' '], CountsColumn d := by
    simp [CountsColumn, isBreak]
  have hcolumn := hplace.along hcounts
  obtain ⟨keys, hkeys, happroach⟩ := TokenScan.exists_approach h.keys h.flow
    hgap (by rw [h.indent]; omega)
  refine ⟨_, happroach, h.move rfl rfl rfl rfl hkeys, hcolumn, ?_⟩
  exact (Bool.or_false _).trans hallows

-- ================================================================= scalars

/-- A text without marks is read as a plain scalar. -/
theorem next_eq_plain {s : TokenScan} {c : Char} {cs more : List Char}
    (hflow : s.inFlow = false) (hcolumn : s.cursor.column ≠ 0)
    (hstart : startsMarkup c cs = false) (hedge : separated (c :: cs) = false)
    (hmore : separated more = separated cs) :
    s.next c more = s.plain := by
  -- the marks `?`, `:` and `-` are text if no white space follows
  have htext : (c = '?' ∨ c = ':' ∨ c = '-') → separated more = false := by
    intro hc
    rw [hmore, ← Bool.not_eq_true]
    intro hsep
    rcases hc with rfl | rfl | rfl <;> simp [startsMarkup, hsep] at hstart
  have hmark (d : Char) (hd : d = '?' ∨ d = ':' ∨ d = '-') :
      (decide (c = d) && separated more) = false := by
    by_cases hc : c = d
    · subst hc
      rw [htext hd, Bool.and_false]
    · simp [hc]
  have hnone := hstart
  simp only [startsMarkup, Bool.or_eq_false_iff] at hnone
  replace hnone := hnone.1.1.1
  simp at hnone
  have hplain : startsPlain false c more = true := by
    by_cases hc : c = '?' ∨ c = ':' ∨ c = '-'
    · have hsep := htext hc
      rcases hc with rfl | rfl | rfl <;> simp [startsPlain, hsep]
    · simp only [not_or] at hc
      have hsep : separated (c :: more) = false := hedge
      simp [startsPlain, hsep, hc, hnone]
  simp [next, hcolumn, hnone, hplain, hflow, hmark]

/-- The token of a plain scalar in a block. -/
theorem plain_eq {s : TokenScan} {keys : List (Nat × OpenKey)}
    {text : List Char} {k : Cursor} {ended : Bool}
    (hopen : s.openKey = some { s with openKeys := keys })
    (hflow : s.inFlow = false)
    (hread : plainFrom false (s.indent + 1) s.cursor.rest.length.succ []
      false s.cursor = (text, k, ended)) :
    s.plain = some { s with
      tokens := s.tokens.push (.scalar (String.ofList text) true)
      cursor := k
      allowsKey := ended
      openKeys := keys } := by
  have hsame : plainFrom s.inFlow (s.indent + 1) s.cursor.rest.length.succ []
      false s.cursor = (text, k, ended) := by
    rw [hflow, hread]
  unfold plain
  rw [hopen]
  simp only [Option.bind_eq_bind, Option.bind_some]
  simp only [inFlow] at hsame ⊢
  rw [hsame]
  rfl

/-- A plain item. -/
theorem InList.exists_plain {s : TokenScan} {c : Char} {cs rest : List Char}
    {tokens : List Token} (h : InList s tokens) (hrest : EndsItem rest)
    (hstyle : style (c :: cs) = .plain)
    (hplace : s.cursor.At
      (writeRuns false true 2 (runs (c :: cs)) ++ '\n' :: rest) 2) :
    ∃ s' more, writeRuns false true 2 (runs (c :: cs)) = c :: more
      ∧ s.next c (more ++ '\n' :: rest) = some s'
      ∧ AtItem s' rest
        (tokens ++ [.scalar (String.ofList (c :: cs)) true]) := by
  obtain ⟨hplain, -, hstart⟩ := isPlain_of_style hstyle '\n'
  obtain ⟨more, hmore, hsep⟩ := exists_writeRuns_plain hplain true 2 rest
  have hflow := h.inFlow_eq_false
  have hedge : separated (c :: cs) = false := by
    have hfirst : isEdge c = false := by simpa using hplain.first
    exact separated_of_visible (hplain.visible c List.mem_cons_self) hfirst cs
  -- what is written is no shorter, so the steps of the reader suffice
  have hlength := length_le_writeRuns (c :: cs) true 2
  obtain ⟨k, hread, hk⟩ := plainFrom_writeRuns hrest hplain true false 2
    s.cursor.rest.length.succ 2 [] s.cursor
    (by rw [hplace.rest, List.length_append]; omega) hplace
  have hdeeper : s.indent + 1 = 1 := by rw [h.indent]; rfl
  rw [← hdeeper] at hread
  obtain ⟨keys, hkeys, hopen⟩ := exists_openKey h.keys (by
    rw [h.indent, hplace.column]; decide)
  have hnext := next_eq_plain hflow (by rw [hplace.column]; decide) hstart
    hedge hsep
  rw [plain_eq hopen hflow hread] at hnext
  exact ⟨_, more, hmore, hnext, h.push (by simp) rfl rfl rfl rfl hkeys,
    .inr ⟨hk, rfl⟩⟩

/-- The token of a scalar in marks. -/
theorem quoted_eq {s : TokenScan} {keys : List (Nat × OpenKey)}
    {quote : Char} {text after : List Char}
    (hopen : s.openKey = some { s with openKeys := keys })
    (hread : quotedFrom quote (s.cursor.rest.drop 1).length.succ
      (s.cursor.rest.drop 1) = .ok (text, after)) :
    s.quoted quote = some { s with
      tokens := s.tokens.push (.scalar (String.ofList text) false)
      cursor := s.cursor.upTo after
      allowsKey := false
      openKeys := keys } := by
  unfold quoted
  rw [hopen]
  simp only [Option.bind_eq_bind, Option.bind_some]
  rw [hread]
  rfl

/-- An item in marks. -/
theorem InList.exists_quoted {s : TokenScan} {quote : Char}
    {w text rest : List Char} {tokens : List Token} (h : InList s tokens)
    (hquote : quote = '\'' ∨ quote = '"')
    (hquoted : Quoted quote (w ++ '\n' :: rest) text ('\n' :: rest))
    (hplace : s.cursor.At (quote :: (w ++ '\n' :: rest)) 2) :
    ∃ s', s.next quote (w ++ '\n' :: rest) = some s'
      ∧ AtItem s' rest (tokens ++ [.scalar (String.ofList text) false]) := by
  have hnext : s.next quote (w ++ '\n' :: rest) = s.quoted quote := by
    rcases hquote with rfl | rfl <;> simp [next, hplace.column]
  obtain ⟨keys, hkeys, hopen⟩ := exists_openKey h.keys (by
    rw [h.indent, hplace.column]; decide)
  have hread : quotedFrom quote (s.cursor.rest.drop 1).length.succ
      (s.cursor.rest.drop 1) = .ok (text, '\n' :: rest) := by
    rw [hplace.rest]
    exact hquoted _ (Nat.lt_succ_self _)
  have hsplit : s.cursor.rest = (quote :: w) ++ '\n' :: rest := hplace.rest
  rw [quoted_eq hopen hread] at hnext
  exact ⟨_, hnext, h.push (by simp) rfl rfl rfl rfl hkeys,
    .inl (Cursor.rest_upTo hsplit)⟩

/-- The tokens of an item. -/
def itemTokens (name : String) : List Token :=
  [.entry, .scalar name (style name.toList = .plain)]

/-- An item on its line. -/
def itemLine (name : String) : List Char := '-' :: ' ' :: item name ++ ['\n']

/-- The scalar of an item in marks, behind its dash. -/
theorem InList.exists_scalar_quoted {s : TokenScan} {quote : Char}
    {w text rest : List Char} {tokens : List Token} (h : InList s tokens)
    (hquote : quote = '\'' ∨ quote = '"')
    (hquoted : Quoted quote (w ++ '\n' :: rest) text ('\n' :: rest))
    (hplace : s.cursor.At (' ' :: quote :: (w ++ '\n' :: rest)) 1)
    (hallows : s.allowsKey = true) :
    ∃ s₁ s₂ c cs, s.approach = some s₁ ∧ s₁.cursor.rest = c :: cs
      ∧ s₁.next c cs = some s₂
      ∧ AtItem s₂ rest (tokens ++ [.scalar (String.ofList text) false]) := by
  have hstart : separated (quote :: (w ++ '\n' :: rest)) = false
      ∧ quote ≠ '#' := by
    rcases hquote with rfl | rfl <;> exact ⟨rfl, by decide⟩
  obtain ⟨s₁, happroach, hin, hplace₁, -⟩ :=
    h.exists_approach_item hplace hstart.1 hstart.2 hallows
  obtain ⟨s₂, hnext, hitem⟩ := hin.exists_quoted hquote hquoted hplace₁
  exact ⟨s₁, s₂, _, _, happroach, hplace₁.rest, hnext, hitem⟩

/-- The scalar of an item, behind its dash. -/
theorem InList.exists_scalar {s : TokenScan} {name : String}
    {rest : List Char} {tokens : List Token} (h : InList s tokens)
    (hrest : EndsItem rest)
    (hplace : s.cursor.At (' ' :: (item name ++ '\n' :: rest)) 1)
    (hallows : s.allowsKey = true) :
    ∃ s₁ s₂ c cs, s.approach = some s₁ ∧ s₁.cursor.rest = c :: cs
      ∧ s₁.next c cs = some s₂
      ∧ AtItem s₂ rest
        (tokens ++ [.scalar name (style name.toList = .plain)]) := by
  have hname : String.ofList name.toList = name := String.ofList_toList
  unfold item at hplace
  -- the text itself is not looked at, only how it is written
  dsimp only at hplace
  generalize name.toList = cs at hname hplace
  cases hstyle : style cs with
  | plain =>
    rw [hstyle] at hplace
    cases cs with
    | nil => cases hstyle
    | cons c cs =>
      obtain ⟨hplain, -, hstart⟩ := isPlain_of_style hstyle '\n'
      obtain ⟨more, hmore, -⟩ := exists_writeRuns_plain hplain true 2 rest
      have hfirst : isEdge c = false := by simpa using hplain.first
      have hsep := separated_of_visible
        (hplain.visible c List.mem_cons_self) hfirst (more ++ '\n' :: rest)
      have hcomment : c ≠ '#' := by
        rintro rfl
        simp [startsMarkup] at hstart
      have hplace' := hplace
      dsimp only at hplace'
      rw [hmore] at hplace'
      obtain ⟨s₁, happroach, hin, hplace₁, -⟩ :=
        h.exists_approach_item hplace' hsep hcomment hallows
      obtain ⟨s₂, more', hmore', hnext, hitem⟩ :=
        hin.exists_plain hrest hstyle (by rw [hmore]; exact hplace₁)
      obtain rfl : more = more' := by
        rw [hmore] at hmore'
        exact (List.cons.inj hmore').2
      rw [hname] at hitem
      exact ⟨s₁, s₂, _, _, happroach, hplace₁.rest, hnext, hitem⟩
  | singleQuoted =>
    rw [hstyle] at hplace
    obtain ⟨hvisible, hapart⟩ := visible_of_style (by rw [hstyle]; decide)
    have hquoted : Quoted '\'' (writeRuns true true 3 (runs cs)
        ++ '\'' :: '\n' :: rest) cs ('\n' :: rest) :=
      quoted_writeRuns (by simp) cs hvisible hapart true 3
    have hitem := h.exists_scalar_quoted (.inl rfl)
      (w := writeRuns true true 3 (runs cs) ++ ['\'']) (by simpa using hquoted)
      (by simpa using hplace) hallows
    rwa [hname] at hitem
  | doubleQuoted =>
    rw [hstyle] at hplace
    have hquoted := quoted_writeEscaped cs ('\n' :: rest) true 3
    have hitem := h.exists_scalar_quoted (.inr rfl)
      (w := writeEscaped true 3 [] cs ++ ['"']) (by simpa using hquoted)
      (by simpa using hplace) hallows
    rwa [hname] at hitem

/-- **One item is read as its tokens.** -/
theorem AtItem.exists_item {s : TokenScan} {name : String}
    {rest : List Char} {tokens : List Token}
    (h : AtItem s (itemLine name ++ rest) tokens) (hrest : EndsItem rest) :
    ∃ s', AtItem s' rest (tokens ++ itemTokens name)
      ∧ ∀ fuel, run (fuel + 2) s = run fuel s' := by
  have hline : itemLine name ++ rest
      = '-' :: ' ' :: (item name ++ '\n' :: rest) := by simp [itemLine]
  rw [hline] at h
  obtain ⟨s₁, happroach, hin, hplace, hallows⟩ :=
    h.exists_approach (.inr ⟨_, rfl⟩)
  obtain ⟨s₂, hentry, hin₂, hplace₂, hallows₂⟩ :=
    hin.exists_entry hplace hallows
  obtain ⟨s₃, s₄, c, cs, happroach₃, hrest₃, hnext, hitem⟩ :=
    hin₂.exists_scalar hrest hplace₂ hallows₂
  refine ⟨s₄, by simpa [itemTokens] using hitem, fun fuel => ?_⟩
  rw [run_of_next h.going happroach hplace.rest hentry,
    run_of_next hin₂.going happroach₃ hrest₃ hnext]

/-- The end of the list. -/
theorem AtItem.run_end {s : TokenScan} {tokens : List Token}
    (h : AtItem s [] tokens) (fuel : Nat) :
    (run (fuel + 1) s).map (·.toList)
      = some (tokens ++ [.blockEnd, .streamEnd]) := by
  obtain ⟨s₁, happroach, hin, hplace, -⟩ := h.exists_approach (.inl rfl)
  -- the list is the one block that is open
  have hunwind : s₁.unwind (-1)
      = { s₁.push .blockEnd with indent := -1, outerIndents := [] } := by
    unfold unwind
    rw [hin.inFlow_eq_false, if_neg Bool.false_ne_true, unwind.go.eq_def,
      hin.indent, if_neg (by decide), hin.outer]
    dsimp only
    rw [unwind.go.eq_def, if_pos (Int.le_refl _)]
  obtain ⟨keys, -, hdrop⟩ := exists_dropKey (s := s₁.unwind (-1)) (by
    rw [hunwind]
    exact hin.keys)
  rw [run, h.going, if_neg Bool.false_ne_true, happroach]
  dsimp only [bind, Option.bind]
  rw [hplace.rest]
  dsimp only
  rw [hdrop]
  show some ((s₁.unwind (-1)).tokens.push .streamEnd).toList = _
  rw [hunwind, Array.toList_push]
  show some ((s₁.tokens.push .blockEnd).toList ++ _) = _
  rw [Array.toList_push, hin.tokens]
  simp

/-- What follows an item. -/
theorem endsItem_flatMap (names : List String) :
    EndsItem (names.flatMap itemLine) := by
  cases names with
  | nil => exact .inl rfl
  | cons name names => exact .inr ⟨_, rfl⟩

/-- **The items of a list are read as their tokens.** -/
theorem AtItem.run_items {names : List String} {s : TokenScan}
    {tokens : List Token} (h : AtItem s (names.flatMap itemLine) tokens)
    {fuel : Nat} (hfuel : 2 * names.length < fuel) :
    (run fuel s).map (·.toList) = some (tokens ++ names.flatMap itemTokens
      ++ [.blockEnd, .streamEnd]) := by
  induction names generalizing s tokens fuel with
  | nil =>
    cases fuel with
    | zero => exact absurd hfuel (Nat.not_lt_zero _)
    | succ fuel => simpa using h.run_end fuel
  | cons name names ih =>
    obtain ⟨s', hs', hrun⟩ := h.exists_item (endsItem_flatMap names)
    -- an item takes two steps
    obtain ⟨n, rfl⟩ : ∃ n, fuel = n + 2 := by
      refine ⟨fuel - 2, ?_⟩
      simp only [List.length_cons] at hfuel
      omega
    rw [hrun, ih hs' (by simp only [List.length_cons] at hfuel; omega)]
    simp

-- ===================================================================== key

/-- The tokens of the key and of the collections around the items. -/
def headTokens : List Token :=
  [.blockMapping, .key, .scalar "functions" true, .value]

/-- The scan behind the key of the list: a key may have started at the first
character. -/
def behindKey (rest : List Char) : TokenScan where
  cursor := ⟨':' :: '\n' :: rest, 9, 0, 9⟩
  tokens := #[.scalar "functions" true]
  flowLevel := 0
  indent := -1
  outerIndents := []
  allowsKey := false
  openKeys := [(0, ⟨0, false, 0, 0, 0⟩)]

/-- The first token is the key. -/
theorem run_key (rest : List Char) (fuel : Nat) :
    run (fuel + 1) (start ("functions".toList ++ ':' :: '\n' :: rest))
      = run fuel (behindKey rest) := by
  set s := start ("functions".toList ++ ':' :: '\n' :: rest) with hs
  have hread : plainFrom false 0 s.cursor.rest.length.succ [] false s.cursor
      = ("functions".toList, (behindKey rest).cursor, false) := by
    have hword : IsWord "functions".toList := by
      have hall : "functions".toList.all
          (fun c => isVisible c && !isEdge c) = true := by decide
      simpa [IsWord] using hall
    have hplace : s.cursor.At ("functions".toList ++ ':' :: '\n' :: rest) 0 :=
      ⟨rfl, rfl⟩
    have hextent : plainExtent false
        ("functions".toList ++ ':' :: '\n' :: rest)
        = "functions".toList.length := rfl
    have hgap : plainGap (':' :: '\n' :: rest)
        = ([], ':' :: '\n' :: rest, false) := rfl
    -- the reader ends in front of the colon
    have hbehind : (s.cursor.advance "functions".toList.length).upTo
        (':' :: '\n' :: rest) = (behindKey rest).cursor :=
      Cursor.upTo_rest (behindKey rest).cursor
    rw [plainFrom_word hplace hword (by decide) hextent hgap hbehind]
    rfl
  have happroach : s.approach = some s := by
    show some (s.unwind 0) = some s
    rw [unwind_of_le (show (-1 : Int) ≤ 0 by decide)]
  have hnext : s.next 'f' ("unctions".toList ++ ':' :: '\n' :: rest)
      = some (behindKey rest) := by
    have hopen : s.openKey = some { s with
        openKeys := [(0, ⟨0, false, 0, 0, 0⟩)] } := rfl
    exact plain_eq hopen rfl hread
  exact run_of_next rfl happroach rfl hnext fuel

/-- The second token is the colon behind the key. -/
theorem exists_behindColon (rest : List Char) :
    ∃ s, AtItem s rest headTokens
      ∧ ∀ fuel, run (fuel + 1) (behindKey rest) = run fuel s := by
  have happroach : (behindKey rest).approach = some (behindKey rest) := by
    show some ((behindKey rest).unwind 9) = _
    rw [unwind_of_le (show (-1 : Int) ≤ 9 by decide)]
  set tokens : Array Token := ((behindKey rest).tokens.insertIdxIfInBounds 0
    .key).insertIdxIfInBounds 0 .blockMapping with htokens
  have hnext : (behindKey rest).next ':' ('\n' :: rest)
      = some {
        cursor := ⟨'\n' :: rest, 10, 0, 10⟩
        tokens := tokens.push .value
        flowLevel := 0
        indent := 0
        outerIndents := [-1]
        allowsKey := false
        openKeys := [] } := rfl
  have hlist : (tokens.push .value).toList = headTokens := by
    rw [htokens]
    simp [behindKey, Array.insertIdxIfInBounds, headTokens]
  have hgoing : (tokens.push .value).back? = some .value := Array.back?_push
  refine ⟨_, ?_, fun fuel => run_of_next rfl happroach rfl hnext fuel⟩
  exact ⟨⟨hlist, by rw [isStopped, hgoing], rfl, rfl, rfl,
    fun _ hx => absurd hx List.not_mem_nil⟩, .inl rfl⟩

/-- **The key of the list is read, and a block collection is open.** -/
theorem exists_head (rest : List Char) :
    ∃ s, AtItem s rest headTokens
      ∧ ∀ fuel, run (fuel + 2)
        (start ("functions".toList ++ ':' :: '\n' :: rest)) = run fuel s := by
  obtain ⟨s, hs, hrun⟩ := exists_behindColon rest
  exact ⟨s, hs, fun fuel => by rw [run_key, hrun]⟩

end TokenScan

/-- A YAML text may hold visible characters. -/
theorem isAllowed_of_visible {c : Char} (h : isVisible c = true) :
    isAllowed c = true := by
  have hc : c = '\n' ∨ (' ' ≤ c ∧ c ≤ '~') := by simpa [isVisible] using h
  rcases hc with rfl | ⟨hlow, hhigh⟩
  · rfl
  · have hlow' : 0x20 ≤ c.toNat := hlow
    have hhigh' : c.toNat ≤ 0x7E := hhigh
    simp [isAllowed, hlow', hhigh']

/-- Every item takes some characters. -/
theorem length_itemLines (names : List String) :
    2 * names.length ≤ (names.flatMap TokenScan.itemLine).length := by
  induction names with
  | nil => exact Nat.le_refl 0
  | cons name names ih =>
    simp only [List.flatMap_cons, List.length_append, List.length_cons,
      TokenScan.itemLine]
    omega

/-- **A written list is read as its tokens.** -/
theorem tokens_keyedList {names : List String} (hnames : names ≠ []) :
    Token.ofChars? (keyedList "functions" names).toList
      = some (TokenScan.headTokens ++ names.flatMap TokenScan.itemTokens
        ++ [.blockEnd, .streamEnd]) := by
  have hvisible := visible_keyedList
    (visible_of_all (by decide : "functions".toList.all isVisible = true))
    names
  have htext : (keyedList "functions" names).toList
      = "functions".toList ++ ':' :: '\n'
        :: names.flatMap TokenScan.itemLine := by
    unfold keyedList
    rw [if_neg (by simpa using hnames), String.toList_ofList]
    rfl
  unfold Token.ofChars?
  rw [if_pos (List.all_eq_true.2 fun c hc =>
    isAllowed_of_visible (hvisible c hc)), htext]
  obtain ⟨s, hs, hrun⟩ :=
    TokenScan.exists_head (names.flatMap TokenScan.itemLine)
  have hlength := length_itemLines names
  generalize hfuel : ("functions".toList ++ ':' :: '\n'
    :: names.flatMap TokenScan.itemLine).length + 1 = fuel
  rw [List.length_append, List.length_cons, List.length_cons] at hfuel
  obtain ⟨n, rfl⟩ : ∃ n, fuel = n + 2 := ⟨fuel - 2, by omega⟩
  rw [hrun]
  have hnine : "functions".toList.length = 9 := rfl
  exact hs.run_items (by omega)

end LogQuery.Yaml
