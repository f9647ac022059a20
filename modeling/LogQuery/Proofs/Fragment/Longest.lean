/-
Words and numbers are longest matches.

What a word or a number looks like is a regular language over classes of
characters. Extents count their way through the text and look one character
ahead; nothing is ever taken back. That is enough, because the languages are
told character by character: after each character it is settled which language
the rest has to be in, and a longest match of the rest makes a longest match of
the whole.
-/
import LogQuery.Proofs.Fragment.Boundary
import Mathlib.Computability.Language

namespace LogQuery

open Fragment Text
open scoped Computability

-- ======================================================== longest prefixes

/-- The text `w` is the longest of those in a language that start the text
`cs`. -/
structure LongestPrefix (L : Language Char) (w cs : List Char) : Prop where
  mem : w ∈ L
  starts : w <+: cs
  longest : ∀ v ∈ L, v <+: cs → v.length ≤ w.length

/-- The texts of one character of a class. -/
def oneOf (p : Char → Bool) : Language Char :=
  {w : List Char | ∃ c, p c = true ∧ w = [c]}

variable {p : Char → Bool} {L M : Language Char}
variable {c : Char} {w cs : List Char}

/-- A character of the class, and then a word of the language. -/
theorem mem_oneOf_mul :
    w ∈ oneOf p * L ↔ ∃ c v, w = c :: v ∧ p c = true ∧ v ∈ L := by
  rw [Language.mem_mul]
  constructor
  · rintro ⟨u, ⟨c, hc, rfl⟩, v, hv, rfl⟩
    exact ⟨c, v, rfl, hc, hv⟩
  · rintro ⟨c, v, rfl, hc, hv⟩
    exact ⟨[c], ⟨c, hc, rfl⟩, v, hv, rfl⟩

theorem nil_notMem_oneOf_mul : [] ∉ oneOf p * L := by
  intro h
  obtain ⟨c, v, hnil, -⟩ := mem_oneOf_mul.1 h
  cases hnil

theorem cons_mem_oneOf_mul :
    c :: w ∈ oneOf p * L ↔ p c = true ∧ w ∈ L := by
  rw [mem_oneOf_mul]
  constructor
  · rintro ⟨d, v, heq, hd, hv⟩
    obtain ⟨rfl, rfl⟩ := List.cons.inj heq
    exact ⟨hd, hv⟩
  · rintro ⟨hc, hw⟩
    exact ⟨c, w, rfl, hc, hw⟩

/-- What starts with a match that starts with a class starts with a character
of the class. -/
theorem any_head?_of_starts (hw : w ∈ oneOf p * L) (hstarts : w <+: cs) :
    cs.head?.any p = true := by
  obtain ⟨c, v, rfl, hc, -⟩ := mem_oneOf_mul.1 hw
  obtain ⟨rest, rfl⟩ := hstarts
  exact hc

/-- A longest match goes on behind a character that leaves the rest to be in
another language. -/
theorem LongestPrefix.cons (hc : ∀ w, c :: w ∈ L ↔ w ∈ M)
    (h : LongestPrefix M w cs) : LongestPrefix L (c :: w) (c :: cs) where
  mem := (hc w).2 h.mem
  starts := List.cons_prefix_cons.2 ⟨rfl, h.starts⟩
  longest v hv hstarts := by
    cases v with
    | nil => exact Nat.zero_le _
    | cons d v =>
      obtain ⟨rfl, hrest⟩ := List.cons_prefix_cons.1 hstarts
      exact Nat.succ_le_succ (h.longest v ((hc v).1 hv) hrest)

/-- A longest match ends where no character goes on. -/
theorem LongestPrefix.nil (hnil : [] ∈ L)
    (h : ∀ c v, c :: v ∈ L → ¬ (c :: v <+: cs)) : LongestPrefix L [] cs where
  mem := hnil
  starts := List.nil_prefix
  longest v hv hstarts := by
    cases v with
    | nil => exact Nat.le_refl 0
    | cons c v => exact (h c v hv hstarts).elim

/-- Of the empty text only the empty text is a match. -/
theorem LongestPrefix.nil_nil (hnil : [] ∈ L) : LongestPrefix L [] [] :=
  .nil hnil fun c v _ hstarts =>
    List.cons_ne_nil c v (List.prefix_nil.1 hstarts)

theorem cons_mem_kstar_oneOf :
    c :: w ∈ (oneOf p)∗ ↔ p c = true ∧ w ∈ (oneOf p)∗ := by
  conv_lhs => rw [← Language.one_add_self_mul_kstar_eq_kstar]
  rw [Language.mem_add, Language.mem_one, cons_mem_oneOf_mul]
  simp

/-- The longest run of a class is the longest match of its repetition. -/
theorem longest_kstar_oneOf (p : Char → Bool) (cs : List Char) :
    LongestPrefix (oneOf p)∗ (cs.takeWhile p) cs := by
  have hnil := Language.nil_mem_kstar (oneOf p)
  induction cs with
  | nil => exact LongestPrefix.nil_nil hnil
  | cons c cs ih =>
    by_cases hc : p c = true
    · rw [List.takeWhile_cons_of_pos hc]
      exact ih.cons fun w => cons_mem_kstar_oneOf.trans (and_iff_right hc)
    · rw [List.takeWhile_cons_of_neg hc]
      refine LongestPrefix.nil hnil fun d v hv hstarts => ?_
      obtain ⟨rfl, -⟩ := List.cons_prefix_cons.1 hstarts
      exact hc (cons_mem_kstar_oneOf.1 hv).1

-- =================================================================== words

namespace Fragment

/-- Characters that start a word on their own. -/
def startsAlone (c : Char) : Bool := isLetter c || c = '_'

/-- Characters that start a word together with a word character. -/
def isMark (c : Char) : Bool := c = '@' || c = '#'

/-- How a word goes on: word characters, each alone or behind a colon or a
point. -/
def wordRest : Language Char :=
  (oneOf isWordChar + oneOf isJoint * oneOf isWordChar)∗

/-- What words look like: a letter, an underscore, or a mark with a word
character, and then the rest. -/
def wordForm : Language Char :=
  (oneOf startsAlone + oneOf isMark * oneOf isWordChar) * wordRest

/-- The rest of a word is nothing, or goes on with a word character, or with a
joint and a word character. -/
theorem wordRest_eq :
    wordRest = 1 + oneOf isWordChar * wordRest
      + oneOf isJoint * (oneOf isWordChar * wordRest) := by
  conv_lhs => rw [wordRest, ← Language.one_add_self_mul_kstar_eq_kstar]
  rw [add_mul, mul_assoc, add_assoc]
  rfl

theorem nil_mem_wordRest : [] ∈ wordRest := Language.nil_mem_kstar _

/-- The rest of a word by its first character. -/
theorem cons_mem_wordRest :
    c :: w ∈ wordRest
      ↔ (isWordChar c = true ∧ w ∈ wordRest)
        ∨ (isJoint c = true ∧ w ∈ oneOf isWordChar * wordRest) := by
  conv_lhs => rw [wordRest_eq]
  rw [Language.mem_add, Language.mem_add, Language.mem_one,
    cons_mem_oneOf_mul, cons_mem_oneOf_mul]
  simp

/-- A word by its first character: one that starts it alone, or a mark in front
of a word character. -/
theorem cons_mem_wordForm :
    c :: w ∈ wordForm
      ↔ (startsAlone c = true ∧ w ∈ wordRest)
        ∨ (isMark c = true ∧ w ∈ oneOf isWordChar * wordRest) := by
  rw [wordForm, add_mul, mul_assoc, Language.mem_add, cons_mem_oneOf_mul,
    cons_mem_oneOf_mul]

/-- No joint is a word character. -/
theorem isWordChar_of_isJoint (h : isJoint c = true) :
    isWordChar c = false := by
  have hc : c = ':' ∨ c = '.' := by simpa [isJoint] using h
  rcases hc with rfl | rfl
  all_goals decide

/-- A word character goes on with the rest of a word. -/
theorem cons_mem_wordRest_iff (hc : isWordChar c = true) :
    c :: w ∈ wordRest ↔ w ∈ wordRest := by
  have hjoint : isJoint c = false := by
    by_contra h
    rw [isWordChar_of_isJoint (Bool.not_eq_false _ ▸ h)] at hc
    cases hc
  rw [cons_mem_wordRest, hc, hjoint]
  simp

/-- A joint goes on with a word character. -/
theorem joint_mem_wordRest_iff (hc : isJoint c = true) :
    c :: w ∈ wordRest ↔ w ∈ oneOf isWordChar * wordRest := by
  rw [cons_mem_wordRest, hc, isWordChar_of_isJoint hc]
  simp

/-- The rest of a word ends at other characters, and at a joint with no word
character behind it. -/
theorem longest_wordRest_stop (hc : isWordChar c = false)
    (h : isJoint c = true → cs.head?.any isWordChar = false) :
    LongestPrefix wordRest [] (c :: cs) := by
  refine LongestPrefix.nil nil_mem_wordRest fun d v hv hstarts => ?_
  obtain ⟨rfl, hrest⟩ := List.cons_prefix_cons.1 hstarts
  rcases cons_mem_wordRest.1 hv with ⟨hd, -⟩ | ⟨hjoint, hv⟩
  · rw [hc] at hd
    cases hd
  · have hno := h hjoint
    rw [any_head?_of_starts hv hrest] at hno
    cases hno

/-- The extent of a word is its longest match. -/
theorem longest_wordRest (cs : List Char) :
    LongestPrefix wordRest (cs.take (wordExtent cs)) cs := by
  fun_induction wordExtent cs with
  | case1 => exact LongestPrefix.nil_nil nil_mem_wordRest
  | case2 c cs hc ih =>
    rw [List.take_succ_cons]
    exact ih.cons fun w => cons_mem_wordRest_iff hc
  | case3 c hc hjoint =>
    exact longest_wordRest_stop (by simpa using hc) fun _ => rfl
  | case4 c hc hjoint d cs hd ih =>
    rw [List.take_succ_cons, List.take_succ_cons]
    -- the joint only goes along with the word character
    refine LongestPrefix.cons (fun w => joint_mem_wordRest_iff hjoint)
      (LongestPrefix.cons (fun w => ?_) ih)
    exact cons_mem_oneOf_mul.trans (and_iff_right hd)
  | case5 c hc hjoint d cs hd =>
    exact longest_wordRest_stop (by simpa using hc)
      fun _ => by simpa using hd
  | case6 c cs hc hjoint =>
    exact longest_wordRest_stop (by simpa using hc)
      fun h => absurd h hjoint

/-- No mark starts a word alone. -/
theorem startsAlone_of_isMark (h : isMark c = true) :
    startsAlone c = false := by
  have hc : c = '@' ∨ c = '#' := by simpa [isMark] using h
  rcases hc with rfl | rfl
  all_goals decide

/-- A letter or an underscore goes on with the rest of a word. -/
theorem alone_mem_wordForm_iff (hc : startsAlone c = true) :
    c :: w ∈ wordForm ↔ w ∈ wordRest := by
  have hmark : isMark c = false := by
    by_contra h
    rw [startsAlone_of_isMark (Bool.not_eq_false _ ▸ h)] at hc
    cases hc
  rw [cons_mem_wordForm, hc, hmark]
  simp

/-- A mark goes on with a word character. -/
theorem mark_mem_wordForm_iff (hc : isMark c = true) :
    c :: w ∈ wordForm ↔ w ∈ oneOf isWordChar * wordRest := by
  rw [cons_mem_wordForm, hc, startsAlone_of_isMark hc]
  simp

/-- A word starts with a character that does so alone, or with a mark in front
of a word character. -/
theorem startsWord_cases (h : startsWord c cs = true) :
    startsAlone c = true
      ∨ (isMark c = true
        ∧ ∃ d rest, cs = d :: rest ∧ isWordChar d = true) := by
  have hsplit : startsWord c cs
      = (startsAlone c || (isMark c && cs.head?.any isWordChar)) := rfl
  rw [hsplit, Bool.or_eq_true, Bool.and_eq_true] at h
  refine h.imp_right fun ⟨hmark, hword⟩ => ⟨hmark, ?_⟩
  cases cs with
  | nil => cases hword
  | cons d rest => exact ⟨d, rest, rfl, hword⟩

/-- Where a word starts, its extent makes the longest match. -/
theorem longest_wordForm (h : startsWord c cs = true) :
    LongestPrefix wordForm (c :: cs.take (wordExtent cs)) (c :: cs) := by
  rcases startsWord_cases h with halone | ⟨hmark, d, rest, rfl, hd⟩
  · exact (longest_wordRest cs).cons fun w => alone_mem_wordForm_iff halone
  · rw [wordExtent_cons hd, List.take_succ_cons]
    refine LongestPrefix.cons (fun w => mark_mem_wordForm_iff hmark)
      (LongestPrefix.cons (fun w => ?_) (longest_wordRest rest))
    exact cons_mem_oneOf_mul.trans (and_iff_right hd)

/-- A word starts where a text that looks like one does. -/
theorem startsWord_iff :
    startsWord c cs = true ↔ ∃ w ∈ wordForm, w <+: c :: cs := by
  constructor
  · intro h
    exact ⟨_, (longest_wordForm h).mem, (longest_wordForm h).starts⟩
  · rintro ⟨w, hw, hstarts⟩
    cases w with
    | nil =>
      rw [wordForm, add_mul, mul_assoc, Language.mem_add] at hw
      exact (hw.elim nil_notMem_oneOf_mul nil_notMem_oneOf_mul).elim
    | cons d v =>
      obtain ⟨rfl, hrest⟩ := List.cons_prefix_cons.1 hstarts
      rcases cons_mem_wordForm.1 hw with ⟨halone, -⟩ | ⟨hmark, hv⟩
      · exact Bool.or_eq_true_iff.2 (Or.inl halone)
      · have hword := any_head?_of_starts hv hrest
        exact Bool.or_eq_true_iff.2
          (Or.inr (Bool.and_eq_true_iff.2 ⟨hmark, hword⟩))

-- ================================================================= numbers

/-- One digit or more. -/
def digits : Language Char := oneOf isDigit * (oneOf isDigit)∗

/-- What numbers look like: digits, or digits around a point. -/
def numberForm : Language Char :=
  digits + digits * (oneOf (· = '.') * digits)

/-- How a number goes on: with digits, or with digits, a point and digits. -/
def numberRest : Language Char :=
  (oneOf isDigit)∗ + (oneOf isDigit)∗ * (oneOf (· = '.') * digits)

/-- A number starts with a digit. -/
theorem cons_mem_numberForm :
    c :: w ∈ numberForm ↔ isDigit c = true ∧ w ∈ numberRest := by
  rw [numberForm, digits, mul_assoc, ← mul_add, cons_mem_oneOf_mul]
  rfl

/-- The rest of a number is nothing, or a point and digits, or goes on with a
digit. -/
theorem numberRest_eq :
    numberRest = 1 + oneOf (· = '.') * digits
      + oneOf isDigit * numberRest := by
  conv_lhs => rw [numberRest, ← Language.one_add_self_mul_kstar_eq_kstar]
  rw [add_mul, one_mul, mul_assoc, numberRest, mul_add]
  exact add_add_add_comm _ _ _ _

theorem nil_mem_numberRest : [] ∈ numberRest :=
  (Language.mem_add _ _ _).2 (Or.inl (Language.nil_mem_kstar _))

/-- The rest of a number by its first character. -/
theorem cons_mem_numberRest :
    c :: w ∈ numberRest
      ↔ (c = '.' ∧ w ∈ digits) ∨ (isDigit c = true ∧ w ∈ numberRest) := by
  conv_lhs => rw [numberRest_eq]
  rw [Language.mem_add, Language.mem_add, Language.mem_one,
    cons_mem_oneOf_mul, cons_mem_oneOf_mul]
  simp

/-- Where there are digits, all of them are the longest match. -/
theorem longest_digits (hc : isDigit c = true) :
    LongestPrefix digits ((c :: cs).take (digitExtent (c :: cs)))
      (c :: cs) := by
  rw [digitExtent, ← List.prefix_iff_eq_take.1 (List.takeWhile_prefix isDigit),
    List.takeWhile_cons_of_pos hc]
  refine LongestPrefix.cons (fun w => ?_) (longest_kstar_oneOf isDigit cs)
  exact cons_mem_oneOf_mul.trans (and_iff_right hc)

/-- A number ends at other characters, and at a point with no digit behind
it. -/
theorem longest_numberRest_stop (hc : isDigit c = false)
    (h : c = '.' → cs.head?.any isDigit = false) :
    LongestPrefix numberRest [] (c :: cs) := by
  refine LongestPrefix.nil nil_mem_numberRest fun d v hv hstarts => ?_
  obtain ⟨rfl, hrest⟩ := List.cons_prefix_cons.1 hstarts
  rcases cons_mem_numberRest.1 hv with ⟨hpoint, hv⟩ | ⟨hd, -⟩
  · have hno := h hpoint
    rw [any_head?_of_starts hv hrest] at hno
    cases hno
  · rw [hc] at hd
    cases hd

theorem digitExtent_digit (hc : isDigit c = true) :
    digitExtent (c :: cs) = digitExtent cs + 1 := by
  rw [digitExtent, List.takeWhile_cons_of_pos hc, List.length_cons, digitExtent]

theorem digitExtent_not_digit (hc : isDigit c = false) :
    digitExtent (c :: cs) = 0 := by
  simp [digitExtent, hc]

/-- A number takes a digit. -/
theorem numberExtent_digit (hc : isDigit c = true) :
    numberExtent (c :: cs) = numberExtent cs + 1 := by
  rw [numberExtent_eq, numberExtent_eq, digitExtent_digit hc,
    List.drop_succ_cons]
  exact Nat.add_right_comm _ 1 _

/-- Where the digits end there may be a fraction. -/
theorem numberExtent_not_digit (hc : isDigit c = false) :
    numberExtent (c :: cs) = fractionExtent (c :: cs) := by
  rw [numberExtent_eq, digitExtent_not_digit hc, Nat.zero_add, List.drop_zero]

/-- A digit goes on with the rest of a number. -/
theorem digit_mem_numberRest_iff (hc : isDigit c = true) :
    c :: w ∈ numberRest ↔ w ∈ numberRest := by
  have hpoint : c ≠ '.' := by
    rintro rfl
    exact absurd hc (by decide)
  rw [cons_mem_numberRest, hc]
  simp [hpoint]

/-- A point goes on with digits. -/
theorem point_mem_numberRest_iff :
    '.' :: w ∈ numberRest ↔ w ∈ digits := by
  have hdigit : isDigit '.' = false := by decide
  rw [cons_mem_numberRest, hdigit]
  simp

/-- The extent of a point with digits behind it is its longest match. -/
theorem longest_fraction (cs : List Char) :
    LongestPrefix numberRest (('.' :: cs).take (fractionExtent ('.' :: cs)))
      ('.' :: cs) := by
  have hpoint : isDigit '.' = false := by decide
  cases cs with
  | nil => exact longest_numberRest_stop hpoint fun _ => rfl
  | cons d rest =>
    cases hd : isDigit d with
    | true =>
      have hpos : digitExtent (d :: rest) ≠ 0 := by
        rw [digitExtent_digit hd]
        omega
      rw [fractionExtent, if_neg hpos, List.take_succ_cons]
      exact (longest_digits hd).cons fun w => point_mem_numberRest_iff
    | false =>
      rw [fractionExtent, if_pos (digitExtent_not_digit hd)]
      exact longest_numberRest_stop hpoint fun _ => hd

/-- The extent of a number is its longest match. -/
theorem longest_numberRest (cs : List Char) :
    LongestPrefix numberRest (cs.take (numberExtent cs)) cs := by
  induction cs with
  | nil => exact LongestPrefix.nil_nil nil_mem_numberRest
  | cons c cs ih =>
    cases hc : isDigit c with
    | true =>
      rw [numberExtent_digit hc, List.take_succ_cons]
      exact ih.cons fun w => digit_mem_numberRest_iff hc
    | false =>
      rw [numberExtent_not_digit hc]
      by_cases hpoint : c = '.'
      · rw [hpoint]
        exact longest_fraction cs
      · rw [fractionExtent.eq_2 _ fun rest h => hpoint (List.cons.inj h).1]
        exact longest_numberRest_stop hc fun h => absurd h hpoint

/-- Where a number starts, its extent makes the longest match. -/
theorem longest_numberForm (hc : isDigit c = true) :
    LongestPrefix numberForm (c :: cs.take (numberExtent cs)) (c :: cs) :=
  (longest_numberRest cs).cons fun _ =>
    cons_mem_numberForm.trans (and_iff_right hc)

end Fragment

-- ============================================================ in a query

namespace Lexeme

/-- A lexeme that is a word is the longest word that starts the text. -/
theorem longest_of_word (h : (first c cs).kind = .word) :
    LongestPrefix wordForm (first c cs).chars (c :: cs) := by
  rw [first] at h ⊢
  have hopens := opens_opening c cs
  generalize opening c cs = o at h hopens ⊢
  cases hopens with
  | word hbare hdigit hword => exact longest_wordForm hword
  | _ => cases h

/-- A lexeme that is a number is the longest number that starts the text. -/
theorem longest_of_number (h : (first c cs).kind = .number) :
    LongestPrefix numberForm (first c cs).chars (c :: cs) := by
  rw [first] at h ⊢
  have hopens := opens_opening c cs
  generalize opening c cs = o at h hopens ⊢
  cases hopens with
  | number hbare hdigit => exact longest_numberForm hdigit
  | _ => cases h

end Lexeme

/-- Words and numbers reach as far as what they look like allows. A digit
starts a number; where no digit does and what looks like a word starts, there
is a word; and what else is no white space, no slash and no quote starts a
punctuation mark. -/
theorem words_and_numbers_are_longest {text : String} {f : Fragment} {p : Nat}
    (hf : f ∈ scan text) (hp : f.span.start = p) :
    (f.kind = .word →
        LongestPrefix wordForm f.text.toList (text.toList.drop p))
      ∧ (f.kind = .number →
        LongestPrefix numberForm f.text.toList (text.toList.drop p))
      ∧ ∀ c, text.toList[p]? = some c → isBlank c = false → c ≠ '/' →
        c ≠ '"' →
        (f.kind = .number ↔ isDigit c = true)
          ∧ (f.kind = .word ↔ isDigit c = false
            ∧ ∃ w ∈ wordForm, w <+: text.toList.drop p)
          ∧ (f.kind = .punct ↔ isDigit c = false
            ∧ ¬ ∃ w ∈ wordForm, w <+: text.toList.drop p) := by
  obtain ⟨q, c, hq, hc, hfirst⟩ := exists_first_of_mem_scan hf
  obtain rfl : q = p := Int.natCast_inj.1 (hq.symm.trans hp)
  have hdrop : text.toList.drop q = c :: text.toList.drop (q + 1) := by
    obtain ⟨hlt, rfl⟩ := List.getElem?_eq_some_iff.1 hc
    exact List.drop_eq_getElem_cons hlt
  rw [hdrop, hfirst, Lexeme.placed, String.toList_ofList]
  refine ⟨Lexeme.longest_of_word, Lexeme.longest_of_number, ?_⟩
  intro d hd hblank hslash hquote
  obtain rfl : c = d := Option.some.inj (hc.symm.trans hd)
  have hbare : Lexeme.Bare c := ⟨hblank, hslash, hquote⟩
  rw [← startsWord_iff, Lexeme.first, Lexeme.opening_of_bare hbare]
  -- the rules are tried in this order
  cases hdigit : isDigit c with
  | true => simp
  | false =>
    cases hword : startsWord c (text.toList.drop (q + 1)) with
    | true => simp
    | false => simp

/-- A second point ends a number. -/
theorem words_and_numbers_are_longest_points :
    let f : Fragment := ⟨.number, ⟨3, 6⟩, "1.2"⟩
    f ∈ scan "x:=1.2.3" ∧ f.span.start = 3
      ∧ LongestPrefix numberForm "1.2".toList "1.2.3".toList := by
  intro f
  have hf : f ∈ scan "x:=1.2.3" := by decide +kernel
  have hstart : f.span.start = 3 := rfl
  have hdrop : "x:=1.2.3".toList.drop 3 = "1.2.3".toList := by decide
  have hlongest := (words_and_numbers_are_longest hf hstart).2.1 rfl
  rw [hdrop] at hlongest
  exact ⟨hf, hstart, hlongest⟩

end LogQuery
