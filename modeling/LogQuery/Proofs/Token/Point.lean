/-
The points of a query at which brackets are open.

Before each token, and at the end, certain brackets are open. A token takes
its context from them, and reading its fragment takes them one point further.
So what holds of all points is shown from one to the next.
-/
import LogQuery.Proofs.Token.Read

namespace LogQuery

variable {v : Vocabulary} {query : String} {i : Nat} {n : Numbered}

-- =========================================================== tokens by number

/-- The fragment before the end of a list is its last. -/
theorem lastBefore_concat (previous? : Option Fragment) (ns : List Numbered)
    (n : Numbered) : lastBefore previous? (ns ++ [n]) = some n.fragment := by
  induction ns generalizing previous? with
  | nil => rfl
  | cons m ns ih => exact ih (some m.fragment)

/-- A token is read with the brackets that are open behind the fragments
before it. -/
theorem getElem?_readFrom (previous? : Option Fragment) (s : Stack)
    (ns : List Numbered) (i : Nat) :
    (readFrom v previous? s ns).1[i]?
      = ns[i]?.map fun n => n.token
          (categorize v (readFrom v previous? s (ns.take i)).2.current
            (lastBefore previous? (ns.take i)) (ns[i + 1]?.map (·.fragment))
            n.fragment)
          (readFrom v previous? s (ns.take i)).2.current := by
  induction ns generalizing previous? s i with
  | nil => rfl
  | cons m ns ih =>
    rw [readFrom_cons]
    cases i with
    | zero =>
      rw [List.getElem?_cons_zero, List.getElem?_cons_zero,
        List.getElem?_cons_succ, List.head?_eq_getElem?]
      rfl
    | succ i =>
      rw [List.getElem?_cons_succ, ih, List.getElem?_cons_succ,
        List.getElem?_cons_succ]
      rfl

-- ===================================================================== points

/-- The fragments of a query that are no layout. -/
def significantOf (query : String) : List Numbered :=
  significantFrom 0 (scan query)

/-- The fragment before the one with number `i`, layout left out. -/
def fragmentBefore? (query : String) (i : Nat) : Option Fragment :=
  lastBefore none ((significantOf query).take i)

/-- The brackets that are open before token number `i`. Where there is no such
token, these are the brackets that are open at the end. -/
def openBefore (v : Vocabulary) (query : String) (i : Nat) : Stack :=
  (readFrom v none .empty ((significantOf query).take i)).2

@[simp] theorem openBefore_zero (v : Vocabulary) (query : String) :
    openBefore v query 0 = .empty := rfl

@[simp] theorem fragmentBefore?_zero (query : String) :
    fragmentBefore? query 0 = none := rfl

/-- Behind a fragment it is the one that was read last. -/
theorem fragmentBefore?_succ (h : (significantOf query)[i]? = some n) :
    fragmentBefore? query (i + 1) = some n.fragment := by
  rw [fragmentBefore?, List.take_add_one, h]
  exact lastBefore_concat none _ n

/-- What was read last has the number before, so there is one. -/
theorem exists_of_fragmentBefore? {g : Fragment}
    (hn : (significantOf query)[i]? = some n)
    (h : fragmentBefore? query i = some g) :
    ∃ j m, i = j + 1 ∧ (significantOf query)[j]? = some m
      ∧ m.fragment = g := by
  cases i with
  | zero => cases h
  | succ j =>
    have hj : j < (significantOf query).length := by
      have := (List.getElem?_eq_some_iff.1 hn).1
      omega
    have hm := List.getElem?_eq_getElem hj
    rw [fragmentBefore?_succ hm] at h
    exact ⟨j, _, rfl, hm, Option.some.inj h⟩

/-- **A point and the next.** Reading a fragment leads from one to the
other. -/
theorem openBefore_succ (h : (significantOf query)[i]? = some n) :
    openBefore v query (i + 1)
      = (openBefore v query i).read v (fragmentBefore? query i)
          n.fragment := by
  rw [openBefore, List.take_add_one, h, Option.toList_some,
    readFrom_append_snd]
  rfl

/-- Behind the end nothing is read any more. -/
theorem openBefore_succ_of_none (h : (significantOf query)[i]? = none) :
    openBefore v query (i + 1) = openBefore v query i := by
  rw [openBefore, List.take_add_one, h, Option.toList_none, List.append_nil]
  rfl

/-- There is a token for every fragment that is no layout. -/
theorem length_tokens (v : Vocabulary) (query : String) :
    (tokens v query).length = (significantOf query).length :=
  length_readFrom none .empty _

/-- The point behind the last token is the end. -/
theorem openBefore_length (v : Vocabulary) (query : String) :
    openBefore v query (significantOf query).length
      = (classifyQuery v query .empty).2 := by
  rw [openBefore, List.take_length]
  rfl

/-- The token at a point, by the brackets that are open there and by the
fragments beside its own. -/
theorem getElem?_tokens (h : (significantOf query)[i]? = some n) :
    (tokens v query)[i]?
      = some (n.token (categorize v (openBefore v query i).current
            (fragmentBefore? query i)
            ((significantOf query)[i + 1]?.map (·.fragment)) n.fragment)
          (openBefore v query i).current) := by
  have hread := @getElem?_readFrom v none .empty (significantOf query) i
  rw [h] at hread
  exact hread

/-- A token has the text of its fragment. -/
theorem text_of_getElem?_tokens {t : Token}
    (hn : (significantOf query)[i]? = some n)
    (ht : (tokens v query)[i]? = some t) : t.text = n.fragment.text := by
  rw [getElem?_tokens hn] at ht
  rw [← Option.some.inj ht]
  rfl

theorem exists_of_getElem?_tokens {t : Token}
    (h : (tokens v query)[i]? = some t) :
    ∃ n, (significantOf query)[i]? = some n := by
  have hi := (List.getElem?_eq_some_iff.1 h).1
  rw [length_tokens] at hi
  exact ⟨_, List.getElem?_eq_getElem hi⟩

end LogQuery
