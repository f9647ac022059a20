/-
The names on a reference page.

Names are taken from the tables one after the other; empty names are dropped,
and of equal names the first is kept. So the names that a page has in front of
others are all kept, and of the others those that are new
(`distinct_append`). All names are bare (`names_eq_ok`).
-/
import LogQuery.Proofs.FunctionList.Saved
import LogQuery.ReferencePage

namespace LogQuery.ReferencePage

open FunctionList

-- ============================================================ distinct names

variable {names others : List String} {n : String}

/-- The first of equal names is kept. -/
theorem nodup_eraseDups (names : List String) : names.eraseDups.Nodup := by
  match names with
  | [] => exact List.nodup_nil
  | name :: names =>
    rw [List.eraseDups_cons, List.nodup_cons, List.mem_eraseDups]
    exact ⟨by simp, nodup_eraseDups _⟩
termination_by names.length
decreasing_by exact Nat.lt_succ_of_le (List.length_filter_le _ _)

/-- Leaving names out before or after the repetitions is the same. -/
theorem eraseDups_filter (p : String → Bool) (names : List String) :
    (names.filter p).eraseDups = names.eraseDups.filter p := by
  match names with
  | [] => rfl
  | name :: names =>
    have ih := eraseDups_filter p (names.filter fun other => !other == name)
    rw [List.filter_filter] at ih
    cases hp : p name with
    | true =>
      rw [List.filter_cons_of_pos hp, List.eraseDups_cons, List.eraseDups_cons,
        List.filter_cons_of_pos hp, ← ih, List.filter_filter]
      simp only [Bool.and_comm]
    | false =>
      rw [List.filter_cons_of_neg (by simp [hp]), List.eraseDups_cons,
        List.filter_cons_of_neg (by simp [hp]), ← ih]
      -- a name that stays is no repetition of one that is left out
      congr 1
      refine List.filter_congr fun other _ => ?_
      cases hother : p other with
      | false => rfl
      | true =>
        have hne : other ≠ name := by
          rintro rfl
          rw [hp] at hother
          cases hother
        simp [hne]
termination_by names.length
decreasing_by exact Nat.lt_succ_of_le (List.length_filter_le _ _)

/-- Of the names that are not empty, each is kept once. -/
theorem mem_distinct : n ∈ distinct names ↔ n ∈ names ∧ n ≠ "" := by
  simp [distinct]

theorem nodup_distinct (names : List String) : (distinct names).Nodup :=
  nodup_eraseDups _

/-- Names that come first are kept, and of those that come later the new
ones. -/
theorem distinct_append (names others : List String) :
    distinct (names ++ others)
      = distinct names
        ++ (distinct others).filter fun n => n ∉ distinct names := by
  unfold distinct
  rw [List.filter_append, List.eraseDups_append, ← eraseDups_filter fun n =>
    n ∉ (names.filter (· ≠ "")).eraseDups]
  congr 2
  refine List.filter_congr fun n _ => ?_
  simp

/-- Names that are followed by other names without them are the same names if
they come first there. -/
theorem append_filter_eq_iff (h : others.Nodup) :
    names ++ others.filter (fun n => n ∉ names) = others
      ↔ names <+: others := by
  constructor
  · intro heq
    exact ⟨_, heq⟩
  · rintro ⟨more, rfl⟩
    have hnew : ∀ n ∈ more, n ∉ names := fun n hmore hnames =>
      List.disjoint_of_nodup_append h hnames hmore
    rw [List.filter_append, List.filter_eq_nil_iff.2 (by simp),
      List.filter_eq_self.2 (by simpa using hnew), List.nil_append]

-- ===================================================================== pages

/-- What a column of a table says are names in signatures. -/
theorem bare_of_namesIn {table : Html.Node} {names : List String}
    (h : namesIn? table = some names) {n : String} (hn : n ∈ names) :
    IsBare n := by
  unfold namesIn? at h
  split at h
  · cases h
  · obtain ⟨column, -, rfl⟩ := Option.map_eq_some_iff.1 h
    obtain ⟨row, -, hrow⟩ := List.mem_filterMap.1 hn
    obtain ⟨cell, -, rfl⟩ := Option.map_eq_some_iff.1 hrow
    exact isBare_nameOf _

/-- **The names on a page** are different, not empty and bare. -/
theorem names_eq_ok {page : String} {names : List String}
    (h : ReferencePage.names page = .ok names) :
    names.Nodup ∧ ∀ n ∈ names, n ≠ "" ∧ IsBare n := by
  unfold ReferencePage.names at h
  split at h
  · cases h
  · next nodes _ =>
    cases hamong : namesAmong? nodes with
    | none => rw [hamong] at h; cases h
    | some found =>
      rw [hamong] at h
      cases h
      unfold namesAmong? at hamong
      split at hamong
      · cases hamong
      · next lists hlists =>
        cases hamong
        -- the names are those of the tables, each kept once
        refine ⟨nodup_distinct _, fun n hn => ?_⟩
        obtain ⟨hmem, hne⟩ := mem_distinct.1 hn
        obtain ⟨list, hlist, hmem⟩ := List.mem_flatten.1 hmem
        obtain ⟨table, -, htable⟩ := List.mem_filterMap.1 hlist
        exact ⟨hne, bare_of_namesIn htable hmem⟩

end LogQuery.ReferencePage
