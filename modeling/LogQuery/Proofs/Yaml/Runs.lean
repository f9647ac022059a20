/-
A text as the runs that its writer cuts it into.

The runs of a text are those of its first run and of what stands behind it
(`runs_cons_append`), and every text is reached by adding runs at its front
(`runs_induction`). So a property of what is written is proved one run at a
time, without a word about how the text was cut.
-/
import Mathlib.Data.List.SplitBy
import Mathlib.Data.List.TakeWhile
import LogQuery.Yaml.Write

namespace LogQuery.Yaml.Writer

-- ==================================================================== runs

theorem sameRun_iff {c d : Char} :
    sameRun c d = true ↔ (c = ' ' ↔ d = ' ') ∧ (c = '\n' ↔ d = '\n') := by
  simp [sameRun]

/-- Characters of one run stand for each other. -/
theorem sameRun_congr {c d x : Char} (h : sameRun c d = true) :
    sameRun d x = sameRun c x := by
  obtain ⟨hspace, hbreak⟩ := sameRun_iff.1 h
  simp only [sameRun, hspace, hbreak]

/-- `w` goes on with the run that `c` starts, and `cs` does not. -/
structure StartsRun (c : Char) (w cs : List Char) : Prop where
  same : ∀ d ∈ w, sameRun c d = true
  ends : ∀ d ∈ cs.head?, sameRun c d = false

/-- Every text has a first run. -/
theorem exists_startsRun (c : Char) (cs : List Char) :
    ∃ w rest, cs = w ++ rest ∧ StartsRun c w rest := by
  refine ⟨cs.takeWhile (sameRun c), cs.dropWhile (sameRun c),
    List.takeWhile_append_dropWhile.symm, ?_, ?_⟩
  · intro d hd
    exact List.mem_takeWhile_imp hd
  · intro d hd
    have hnot := List.head?_dropWhile_not (sameRun c) cs
    rw [Option.mem_def] at hd
    rw [hd] at hnot
    simpa using hnot

/-- The first run of a text is cut off first. -/
theorem runs_cons_append {c : Char} {w cs : List Char}
    (h : StartsRun c w cs) : runs (c :: (w ++ cs)) = (c :: w) :: runs cs := by
  have hkind : ∀ d ∈ c :: w, sameRun c d = true := by
    intro d hd
    rcases List.mem_cons.1 hd with rfl | hd
    · exact sameRun_iff.2 ⟨Iff.rfl, Iff.rfl⟩
    · exact h.same d hd
  have hchain : (c :: w).IsChain fun x y => sameRun x y := by
    refine (List.pairwise_of_forall_mem_list ?_).isChain
    intro x hx y hy
    rw [sameRun_congr (hkind x hx)]
    exact hkind y hy
  have hends : ∀ x ∈ (c :: w).getLast?, ∀ y ∈ cs.head?,
      sameRun x y = false := by
    intro x hx y hy
    rw [← h.ends y hy]
    exact sameRun_congr (hkind x (List.mem_of_mem_getLast? hx))
  unfold runs
  rw [← List.cons_append, List.splitBy_append hends,
    List.splitBy_of_isChain (List.cons_ne_nil c w) hchain]
  rfl

/-- What holds of the empty text and of a text with one more run in front
holds of every text. -/
theorem runs_induction {P : List Char → Prop} (nil : P [])
    (run : ∀ c w cs, StartsRun c w cs → P cs → P (c :: (w ++ cs))) :
    ∀ cs, P cs
  | [] => nil
  | c :: cs => by
    obtain ⟨w, rest, hcs, hrun⟩ := exists_startsRun c cs
    rw [hcs]
    exact run c w rest hrun (runs_induction nil run rest)
termination_by cs => cs.length
decreasing_by
  rw [hcs, List.length_cons, List.length_append]
  omega

/-- A run of spaces or of line ends. -/
theorem eq_replicate_of_sameRun {c : Char} (hc : isEdge c = true)
    {w : List Char} (h : ∀ d ∈ w, sameRun c d = true) :
    w = List.replicate w.length c := by
  refine List.eq_replicate_iff.2 ⟨rfl, fun d hd => ?_⟩
  obtain ⟨hspace, hbreak⟩ := sameRun_iff.1 (h d hd)
  have hkind : c = ' ' ∨ c = '\n' := by simpa [isEdge] using hc
  rcases hkind with rfl | rfl
  · exact hspace.1 rfl
  · exact hbreak.1 rfl

/-- A run of other characters. -/
theorem isEdge_of_sameRun {c d : Char} (h : sameRun c d = true) :
    isEdge d = isEdge c := by
  obtain ⟨hspace, hbreak⟩ := sameRun_iff.1 h
  unfold isEdge
  rw [decide_eq_decide.2 hspace, decide_eq_decide.2 hbreak]

-- ============================================================== neighbours

/-- The pairs of a text are its first one and those behind it. -/
theorem holdsPair_cons_cons {a b c d : Char} {cs : List Char} :
    holdsPair a b (c :: d :: cs) = true
      ↔ (a = c ∧ b = d) ∨ holdsPair a b (d :: cs) = true := by
  simp only [holdsPair, List.drop_one, List.tail_cons, List.zip_cons_cons,
    List.contains_cons, Bool.or_eq_true, beq_iff_eq, Prod.mk.injEq]

/-- A pair of neighbours is held where it stands in the text. -/
theorem holdsPair_iff {a b : Char} {cs : List Char} :
    holdsPair a b cs = true ↔ ∃ xs ys, cs = xs ++ a :: b :: ys := by
  induction cs with
  | nil => simp [holdsPair]
  | cons c cs ih =>
    cases cs with
    | nil =>
      refine iff_of_false (by simp [holdsPair]) ?_
      rintro ⟨xs, ys, hcs⟩
      have hlength := congrArg List.length hcs
      simp at hlength
      omega
    | cons d cs =>
      rw [holdsPair_cons_cons, ih]
      constructor
      · rintro (⟨rfl, rfl⟩ | ⟨xs, ys, hcs⟩)
        · exact ⟨[], cs, rfl⟩
        · exact ⟨c :: xs, ys, by rw [hcs]; rfl⟩
      · rintro ⟨xs, ys, hcs⟩
        cases xs with
        | nil => cases hcs; exact .inl ⟨rfl, rfl⟩
        | cons x xs => exact .inr ⟨xs, ys, (List.cons.inj hcs).2⟩

/-- The end of a text holds no other pairs. -/
theorem holdsPair_append_right {a b : Char} {xs ys : List Char}
    (h : holdsPair a b (xs ++ ys) = false) : holdsPair a b ys = false := by
  rw [← Bool.not_eq_true] at h ⊢
  intro hys
  obtain ⟨us, vs, rfl⟩ := holdsPair_iff.1 hys
  exact h (holdsPair_iff.2 ⟨xs ++ us, vs, by simp⟩)

/-- No space stands next to a line end. -/
structure EdgesApart (cs : List Char) : Prop where
  noSpaceFirst : holdsPair ' ' '\n' cs = false
  noBreakFirst : holdsPair '\n' ' ' cs = false

theorem EdgesApart.append_right {xs ys : List Char}
    (h : EdgesApart (xs ++ ys)) : EdgesApart ys :=
  ⟨holdsPair_append_right h.noSpaceFirst,
    holdsPair_append_right h.noBreakFirst⟩

/-- A word follows a run of spaces or line ends. -/
theorem EdgesApart.head {c : Char} {w cs : List Char}
    (h : EdgesApart (c :: (w ++ cs))) (hrun : StartsRun c w cs)
    (hc : isEdge c = true) : ∀ d ∈ cs.head?, isEdge d = false := by
  intro d hd
  obtain ⟨cs, rfl⟩ : ∃ ds, cs = d :: ds := by
    cases cs with
    | nil => cases hd
    | cons x cs => cases hd; exact ⟨cs, rfl⟩
  -- the last edge of the run and `d` are neighbours in the text
  have htext : c :: (w ++ d :: cs)
      = List.replicate w.length c ++ c :: d :: cs := by
    rw [eq_replicate_of_sameRun hc hrun.same, List.length_replicate,
      ← List.cons_append, ← List.replicate_succ, List.replicate_succ']
    simp
  have hdiffers := hrun.ends d rfl
  have hkind : c = ' ' ∨ c = '\n' := by simpa [isEdge] using hc
  rw [isEdge, Bool.or_eq_false_iff, decide_eq_false_iff_not,
    decide_eq_false_iff_not]
  rcases hkind with rfl | rfl
  · refine ⟨fun hspace => ?_, fun hbreak => ?_⟩
    -- two spaces would be one run
    · subst hspace
      cases hdiffers
    · subst hbreak
      have hpair := holdsPair_iff.2 ⟨_, _, htext⟩
      rw [h.noSpaceFirst] at hpair
      cases hpair
  · refine ⟨fun hspace => ?_, fun hbreak => ?_⟩
    · subst hspace
      have hpair := holdsPair_iff.2 ⟨_, _, htext⟩
      rw [h.noBreakFirst] at hpair
      cases hpair
    · subst hbreak
      cases hdiffers

end LogQuery.Yaml.Writer
