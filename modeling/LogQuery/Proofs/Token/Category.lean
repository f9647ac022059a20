/-
When a fragment gets which category.

Comments, regular expressions, calls and operators are told by the fragment
itself and by the parenthesis behind a call; no frame changes them. Everything
else is told by its place: by the context around it and by the comparisons
beside it. The rules are tried in this order, but what they ask for makes them
exclude each other, so each category has a condition of its own.
-/
import LogQuery.Proofs.Token.Read

namespace LogQuery

variable {v : Vocabulary} {frame : Frame} {context : Context}
variable {previous? next? : Option Fragment} {f : Fragment}

-- ============================================================== kinds of text

/-- The fragment is a function name right before a parenthesis. -/
def Vocabulary.readsCall (v : Vocabulary) (next? : Option Fragment)
    (f : Fragment) : Bool :=
  v.readsFunction f && next?.any (·.isPunct "(")

/-- A function name is a word that the vocabulary has. -/
theorem readsFunction_iff :
    v.readsFunction f = true ↔ f.kind = .word ∧ f.text ∈ v.functions := by
  rw [Vocabulary.readsFunction, Bool.and_eq_true, decide_eq_true_eq,
    Vocabulary.isFunction, NameSet.contains_iff]

theorem kind_of_readsCall (h : v.readsCall next? f = true) :
    f.kind = .word := by
  rw [Vocabulary.readsCall, Bool.and_eq_true] at h
  exact (readsFunction_iff.1 h.1).1

/-- No comment, text or number is an operator. -/
theorem kind_of_readsOperator (h : v.readsOperator f = true) :
    f.kind = .punct ∨ f.kind = .word := by
  rw [Vocabulary.readsOperator, Bool.and_eq_true, Bool.or_eq_true,
    decide_eq_true_eq, decide_eq_true_eq] at h
  exact h.1

-- ================================================================== by place

/-- The category of a fragment that only its place can tell. -/
def categorizeByPlace (v : Vocabulary) (context : Context)
    (previous? next? : Option Fragment) (f : Fragment) : Category :=
  if context = .matchBody then .plain
  else if f.kind = .word && next?.any v.readsComparison
      && context = .topLevel then .filterKey
  else if f.kind = .word && next?.any v.readsComparison
      && next?.any (·.isPunct "=") then .argKey
  else if f.kind.isOperand && previous?.any v.readsComparison then .value
  else .plain

/-- The rules in the order in which they are tried. -/
theorem categorize_eq_ite :
    categorize v frame previous? next? f
      = if f.kind = .comment then .comment
        else if f.kind = .regexLiteral then .regex
        else if v.readsCall next? f then .function
        else if v.readsOperator f then .operator
        else categorizeByPlace v frame.context previous? next? f := rfl

/-- The categories that are told by place. -/
def Category.isByPlace : Category → Bool
  | filterKey | argKey | value | plain => true
  | function | operator | regex | comment => false

/-- The place gives no category that the fragment itself tells. -/
theorem isByPlace_categorizeByPlace :
    (categorizeByPlace v context previous? next? f).isByPlace = true := by
  unfold categorizeByPlace
  repeat' split
  all_goals rfl

/-- A key of a filter is a word that is compared outside every bracket. -/
theorem categorizeByPlace_eq_filterKey :
    categorizeByPlace v context previous? next? f = .filterKey
      ↔ f.kind = .word ∧ next?.any v.readsComparison = true
        ∧ context = .topLevel := by
  unfold categorizeByPlace
  cases context
  all_goals
    repeat' split
    all_goals simp_all

/-- The name of an argument is a word before `=` in a call. -/
theorem categorizeByPlace_eq_argKey :
    categorizeByPlace v context previous? next? f = .argKey
      ↔ f.kind = .word ∧ next?.any v.readsComparison = true
        ∧ next?.any (·.isPunct "=") = true ∧ context = .functionArgs := by
  unfold categorizeByPlace
  cases context
  all_goals
    repeat' split
    all_goals simp_all

/-- A value may be compared on from, but not where that makes it a key. -/
theorem categorizeByPlace_eq_value :
    categorizeByPlace v context previous? next? f = .value
      ↔ f.kind.isOperand = true ∧ previous?.any v.readsComparison = true
        ∧ context ≠ .matchBody
        ∧ (f.kind = .word → next?.any v.readsComparison = true →
          context = .functionArgs
            ∧ next?.any (·.isPunct "=") = false) := by
  unfold categorizeByPlace
  cases context
  all_goals
    repeat' split
    all_goals simp_all

-- ======================================================= category by category

/-- The rules with all that they ask for: no two of them apply. -/
inductive Categorized (v : Vocabulary) (context : Context)
    (previous? next? : Option Fragment) (f : Fragment) : Category → Prop where
  | comment (hkind : f.kind = .comment) :
      Categorized v context previous? next? f .comment
  | regex (hkind : f.kind = .regexLiteral) :
      Categorized v context previous? next? f .regex
  | function (hcall : v.readsCall next? f = true) :
      Categorized v context previous? next? f .function
  | operator (hoperator : v.readsOperator f = true)
      (hcall : v.readsCall next? f = false) :
      Categorized v context previous? next? f .operator
  | byPlace {c : Category} (hcomment : f.kind ≠ .comment)
      (hregex : f.kind ≠ .regexLiteral) (hcall : v.readsCall next? f = false)
      (hoperator : v.readsOperator f = false)
      (hplace : categorizeByPlace v context previous? next? f = c) :
      Categorized v context previous? next? f c

/-- The first rule that applies has all that it asks for: the rules before it
do not apply. -/
theorem categorized_categorize (v : Vocabulary) (frame : Frame)
    (previous? next? : Option Fragment) (f : Fragment) :
    Categorized v frame.context previous? next? f
      (categorize v frame previous? next? f) := by
  rw [categorize_eq_ite]
  by_cases hcomment : f.kind = .comment
  · rw [if_pos hcomment]
    exact .comment hcomment
  rw [if_neg hcomment]
  by_cases hregex : f.kind = .regexLiteral
  · rw [if_pos hregex]
    exact .regex hregex
  rw [if_neg hregex]
  cases hcall : v.readsCall next? f with
  | true => exact .function hcall
  | false =>
    cases hoperator : v.readsOperator f with
    | true => exact .operator hoperator hcall
    | false => exact .byPlace hcomment hregex hcall hoperator rfl

/-- A rule that has all that it asks for is the one that is followed. -/
theorem Categorized.categorize_eq {c : Category}
    (h : Categorized v frame.context previous? next? f c) :
    categorize v frame previous? next? f = c := by
  rw [categorize_eq_ite]
  cases h with
  | comment hkind => rw [if_pos hkind]
  | regex hkind => simp [hkind]
  | function hcall =>
    have hkind := kind_of_readsCall hcall
    simp [hkind, hcall]
  | operator hoperator hcall =>
    rcases kind_of_readsOperator hoperator with hkind | hkind
    all_goals simp [hkind, hoperator, hcall]
  | byPlace hcomment hregex hcall hoperator hplace =>
    simp [hcomment, hregex, hcall, hoperator, hplace]

/-- The rules tell the category. -/
theorem categorize_eq_iff {c : Category} :
    categorize v frame previous? next? f = c
      ↔ Categorized v frame.context previous? next? f c :=
  ⟨fun h => h ▸ categorized_categorize v frame previous? next? f,
    Categorized.categorize_eq⟩

/-- Where only the place tells, the category is none that the fragment itself
tells. -/
theorem not_byPlace {c : Category} (hc : c.isByPlace = false) :
    categorizeByPlace v context previous? next? f ≠ c := by
  rintro rfl
  rw [isByPlace_categorizeByPlace] at hc
  cases hc

theorem categorize_eq_comment :
    categorize v frame previous? next? f = .comment ↔ f.kind = .comment := by
  rw [categorize_eq_iff]
  constructor
  · intro h
    cases h with
    | comment hkind => exact hkind
    | byPlace _ _ _ _ hplace => exact absurd hplace (not_byPlace rfl)
  · exact .comment

theorem categorize_eq_regex :
    categorize v frame previous? next? f = .regex
      ↔ f.kind = .regexLiteral := by
  rw [categorize_eq_iff]
  constructor
  · intro h
    cases h with
    | regex hkind => exact hkind
    | byPlace _ _ _ _ hplace => exact absurd hplace (not_byPlace rfl)
  · exact .regex

/-- A function is a call, whatever else it could be. -/
theorem categorize_eq_function :
    categorize v frame previous? next? f = .function
      ↔ v.readsCall next? f = true := by
  rw [categorize_eq_iff]
  constructor
  · intro h
    cases h with
    | function hcall => exact hcall
    | byPlace _ _ _ _ hplace => exact absurd hplace (not_byPlace rfl)
  · exact .function

/-- An operator is what reads as one, unless it is called. -/
theorem categorize_eq_operator :
    categorize v frame previous? next? f = .operator
      ↔ v.readsOperator f = true ∧ v.readsCall next? f = false := by
  rw [categorize_eq_iff]
  constructor
  · intro h
    cases h with
    | operator hoperator hcall => exact ⟨hoperator, hcall⟩
    | byPlace _ _ _ _ hplace => exact absurd hplace (not_byPlace rfl)
  · rintro ⟨hoperator, hcall⟩
    exact .operator hoperator hcall

/-- A category told by place is given to what is neither a call nor an
operator. -/
theorem categorize_eq_byPlace {c : Category} (hc : c.isByPlace = true) :
    categorize v frame previous? next? f = c
      ↔ f.kind ≠ .comment ∧ f.kind ≠ .regexLiteral
        ∧ v.readsCall next? f = false ∧ v.readsOperator f = false
        ∧ categorizeByPlace v frame.context previous? next? f = c := by
  rw [categorize_eq_iff]
  constructor
  · intro h
    cases h with
    | byPlace hcomment hregex hcall hoperator hplace =>
      exact ⟨hcomment, hregex, hcall, hoperator, hplace⟩
    | _ => cases hc
  · rintro ⟨hcomment, hregex, hcall, hoperator, hplace⟩
    exact .byPlace hcomment hregex hcall hoperator hplace

end LogQuery
