/-
What reading asks of a vocabulary.

Reading asks three things about a fragment: whether it is a function name,
whether it is an operator, and whether it compares. Two vocabularies that
answer alike about all fragments of a list give the list the same tokens and
leave the same brackets open, whatever else they hold.

The answers about operators do not depend on the order in which operators were
given, or on how often. So two vocabularies with the same entries can not be
told apart by reading, and giving both the same new function names changes
nothing about that.
-/
import LogQuery.Proofs.Token.Category
import LogQuery.Proofs.Vocabulary

namespace LogQuery

open Text

variable {v u : Vocabulary}

-- ========================================================= alike on fragments

/-- The vocabularies give the same answers about a fragment. -/
structure Vocabulary.AlikeOn (v u : Vocabulary) (f : Fragment) : Prop where
  readsFunction : v.readsFunction f = u.readsFunction f
  readsOperator : v.readsOperator f = u.readsOperator f
  readsComparison : v.readsComparison f = u.readsComparison f

theorem any_readsComparison_of_alikeOn {neighbour? : Option Fragment}
    (h : ∀ g ∈ neighbour?, v.AlikeOn u g) :
    neighbour?.any v.readsComparison = neighbour?.any u.readsComparison := by
  cases neighbour? with
  | none => rfl
  | some g => exact (h g rfl).readsComparison

theorem categorize_alikeOn {frame : Frame} {previous? next? : Option Fragment}
    {f : Fragment} (hprevious : ∀ g ∈ previous?, v.AlikeOn u g)
    (hnext : ∀ g ∈ next?, v.AlikeOn u g) (hf : v.AlikeOn u f) :
    categorize v frame previous? next? f
      = categorize u frame previous? next? f := by
  simp only [categorize, hf.readsFunction, hf.readsOperator,
    any_readsComparison_of_alikeOn hprevious,
    any_readsComparison_of_alikeOn hnext]

/-- A bracket asks about the fragment before it, and nothing else. -/
theorem Stack.read_alikeOn (s : Stack) {previous? : Option Fragment}
    (f : Fragment) (hprevious : ∀ g ∈ previous?, v.AlikeOn u g) :
    s.read v previous? f = s.read u previous? f := by
  have hfilter : previous?.filter v.readsFunction
      = previous?.filter u.readsFunction := by
    cases previous? with
    | none => rfl
    | some g =>
      rw [Option.filter, Option.filter, (hprevious g rfl).readsFunction]
  simp only [read, parenFrame, hfilter]

/-- Vocabularies that answer alike about all fragments read them alike. -/
theorem readFrom_alikeOn {previous? : Option Fragment} {ns : List Numbered}
    (s : Stack) (hprevious : ∀ g ∈ previous?, v.AlikeOn u g)
    (hns : ∀ n ∈ ns, v.AlikeOn u n.fragment) :
    readFrom v previous? s ns = readFrom u previous? s ns := by
  induction ns generalizing previous? s with
  | nil => rfl
  | cons n ns ih =>
    have hn := hns n List.mem_cons_self
    have hrest : ∀ m ∈ ns, v.AlikeOn u m.fragment :=
      fun m hm => hns m (List.mem_cons_of_mem n hm)
    have hnext : ∀ g ∈ ns.head?.map (·.fragment), v.AlikeOn u g := by
      intro g hg
      obtain ⟨m, hm, rfl⟩ := Option.map_eq_some_iff.1 hg
      exact hrest m (List.mem_of_head? hm)
    have hsome : ∀ g ∈ some n.fragment, v.AlikeOn u g := by
      rintro g ⟨⟩
      exact hn
    rw [readFrom_cons, readFrom_cons, s.read_alikeOn _ hprevious,
      categorize_alikeOn hprevious hnext hn, ih _ hsome hrest]

theorem classify_alikeOn {fs : List Fragment} (s : Stack)
    (h : ∀ f ∈ significant fs, v.AlikeOn u f) :
    classify v fs s = classify u fs s := by
  have hnone : ∀ g ∈ (none : Option Fragment), v.AlikeOn u g := by
    rintro g ⟨⟩
  refine readFrom_alikeOn s hnone fun n hn => h _ ?_
  rw [← map_fragment_significantFrom 0]
  exact List.mem_map_of_mem hn

-- ============================================================== same entries

namespace Vocabulary

/-- The vocabularies hold the same names and operators. Their operators may
be listed in different orders, and some of them more than once. -/
structure SameEntries (v u : Vocabulary) : Prop where
  functions : v.functions = u.functions
  operators : ∀ op, op ∈ v.operators ↔ op ∈ u.operators
  wordOperators : v.wordOperators = u.wordOperators
  connectives : v.connectives = u.connectives

namespace SameEntries

theorem isOperator (h : v.SameEntries u) (text : String) :
    v.isOperator text = u.isOperator text := by
  rw [Bool.eq_iff_iff, isOperator_iff, isOperator_iff, h.wordOperators,
    h.operators]

theorem alikeOn (h : v.SameEntries u) (f : Fragment) : v.AlikeOn u f where
  readsFunction := by
    rw [readsFunction, readsFunction, isFunction, isFunction, h.functions]
  readsOperator := by
    rw [readsOperator, readsOperator, h.isOperator]
  readsComparison := by
    rw [readsComparison, readsComparison, isComparison, isComparison,
      h.isOperator, h.connectives]

/-- New function names for both keep the entries the same. -/
theorem withFunctions (h : v.SameEntries u) (functions : NameSet) :
    (v.withFunctions functions).SameEntries (u.withFunctions functions) where
  functions := rfl
  operators := h.operators
  wordOperators := h.wordOperators
  connectives := h.connectives

theorem foldl_withFunctions (h : v.SameEntries u) (changes : List NameSet) :
    (changes.foldl Vocabulary.withFunctions v).SameEntries
      (changes.foldl Vocabulary.withFunctions u) := by
  induction changes generalizing v u with
  | nil => exact h
  | cons functions changes ih => exact ih (h.withFunctions functions)

end SameEntries

/-- New function names leave everything else as it was. -/
theorem foldl_withFunctions_eq (v : Vocabulary) (changes : List NameSet) :
    (changes.foldl Vocabulary.withFunctions v).operators = v.operators
      ∧ (changes.foldl Vocabulary.withFunctions v).wordOperators
        = v.wordOperators := by
  induction changes generalizing v with
  | nil => exact ⟨rfl, rfl⟩
  | cons functions changes ih => exact ih (v.withFunctions functions)

end Vocabulary

/-- A vocabulary finds the longest of the operators that stand at an offset,
and takes a text for an operator if it is one of them or one of the words in
some case, however the operators were listed when it was made and whatever
function names it was given since. If others were made from the same operators,
listed in another way, and given the same function names, they read all
fragments alike. -/
theorem operators_in_any_order (functions words connectives : NameSet)
    (ops : List String) (changes : List NameSet) :
    let v := changes.foldl Vocabulary.withFunctions
      (.ofParts functions ops words connectives)
    (∀ text offset op, v.operatorAt? text offset = some op
        ↔ op ∈ ops ∧ Vocabulary.StandsAt op text offset
          ∧ ∀ q ∈ ops, Vocabulary.StandsAt q text offset →
            q.length ≤ op.length)
      ∧ (∀ text offset, v.operatorAt? text offset = none
        ↔ ∀ op ∈ ops, ¬ Vocabulary.StandsAt op text offset)
      ∧ (∀ text, v.isOperator text = true ↔ text ∈ ops ∨ lower text ∈ words)
      ∧ ∀ ops', (∀ op, op ∈ ops' ↔ op ∈ ops) →
        ∀ fs s, classify (changes.foldl Vocabulary.withFunctions
          (.ofParts functions ops' words connectives)) fs s
            = classify v fs s := by
  intro v
  obtain ⟨hoperators, hwords⟩ := Vocabulary.foldl_withFunctions_eq
    (.ofParts functions ops words connectives) changes
  have hmem : ∀ op, op ∈ v.operators ↔ op ∈ ops := by
    intro op
    show op ∈ (changes.foldl Vocabulary.withFunctions _).operators ↔ _
    rw [hoperators]
    exact mem_longestFirst
  refine ⟨fun text offset op => ?_, fun text offset => ?_, fun text => ?_,
    fun ops' hsame fs s => ?_⟩
  · rw [Vocabulary.operatorAt?_eq_some_iff]
    simp only [hmem]
  · rw [Vocabulary.operatorAt?_eq_none_iff]
    simp only [hmem]
  · rw [Vocabulary.isOperator_iff, hmem, or_comm]
    show _ ∨ _ ∈ (changes.foldl Vocabulary.withFunctions _).wordOperators ↔ _
    rw [hwords]
    rfl
  · have hentries : (Vocabulary.ofParts functions ops' words
        connectives).SameEntries (.ofParts functions ops words connectives) :=
      ⟨rfl, fun op => by
        rw [Vocabulary.ofParts, Vocabulary.ofParts, mem_longestFirst,
          mem_longestFirst, hsame], rfl, rfl⟩
    exact classify_alikeOn s fun f _ =>
      (hentries.foldl_withFunctions changes).alikeOn f

/-- Operators in two orders, the empty text among them. At an offset from the
end the longest one is found, right behind the text only the empty one, and
further on none. -/
theorem operators_in_any_order_empty :
    let v := Vocabulary.withFunctions
      (.ofParts .empty ["=", "", ":="] .empty .empty) (.ofList ["count"])
    let u := Vocabulary.withFunctions
      (.ofParts .empty [":=", "=", "", "="] .empty .empty) (.ofList ["count"])
    v.operatorAt? "a:=b" (-3) = some ":=" ∧ v.operatorAt? "a:=b" 4 = some ""
      ∧ v.operatorAt? "a:=b" 5 = none ∧ v.isOperator "" = true
      ∧ (∀ op, op ∈ [":=", "=", "", "="] ↔ op ∈ ["=", "", ":="])
      ∧ classify u (scan "count(a:=b)") .empty
        = classify v (scan "count(a:=b)") .empty := by
  intro v u
  obtain ⟨hsome, hnone, hoperator, halike⟩ := operators_in_any_order .empty
    .empty .empty ["=", "", ":="] [.ofList ["count"]]
  have hsame : ∀ op, op ∈ [":=", "=", "", "="] ↔ op ∈ ["=", "", ":="] := by
    intro op
    simp only [List.mem_cons, List.not_mem_nil, or_false]
    tauto
  have hlongest : ∀ q ∈ ["=", "", ":="], q.length ≤ ":=".length := by decide
  refine ⟨?_, ?_, ?_, ?_, hsame, halike _ hsame _ _⟩
  · refine (hsome "a:=b" (-3) ":=").2 ⟨by decide, ?_, fun q hq _ => ?_⟩
    · exact ⟨['a'], ['b'], by decide, by decide⟩
    · exact hlongest q hq
  · refine (hsome "a:=b" 4 "").2 ⟨by decide, ?_, ?_⟩
    · exact ⟨"a:=b".toList, [], by decide, by decide⟩
    · intro q _ hq
      have hend := hq.le_length
      have hpoint : Vocabulary.pointAt "a:=b".length 4 = 4 := by decide
      have htext : "a:=b".length = 4 := by decide
      omega
  · refine (hnone "a:=b" 5).2 fun op _ hop => ?_
    have hend := hop.le_length
    have hpoint : Vocabulary.pointAt "a:=b".length 5 = 5 := by decide
    have htext : "a:=b".length = 4 := by decide
    omega
  · exact (hoperator "").2 (Or.inl (by decide))

end LogQuery
