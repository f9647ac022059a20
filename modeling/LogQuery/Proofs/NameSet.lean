/-
Sets of names, by their members.

A set is determined by its members, because it lists them in ascending order,
and the set of different names has as many members as there are names.
-/
import Mathlib.Data.List.Sort
import LogQuery.NameSet

namespace LogQuery.NameSet

/-- Sets with the same members are the same set. -/
theorem ext {s t : NameSet} (h : ∀ name, name ∈ s ↔ name ∈ t) : s = t := by
  obtain ⟨names, hs⟩ := s
  obtain ⟨names', ht⟩ := t
  have heq : names = names' := hs.eq_of_mem_iff ht h
  subst heq
  rfl

/-- The members are different from each other. -/
theorem nodup_toList (s : NameSet) : s.toList.Nodup := s.ascending.nodup

/-- The set of different names has a member for each. -/
theorem size_ofList {names : List String} (h : names.Nodup) :
    (ofList names).size = names.length :=
  ((List.perm_ext_iff_of_nodup (nodup_toList _) h).2
    fun _ => mem_ofList).length_eq

end LogQuery.NameSet
