/-
A written list holds visible characters only.

So every YAML reader may read it, and as a text file it is its own text: it
is ASCII and has no line ends but line feeds.
-/
import LogQuery.Proofs.Yaml.WriteQuoted

namespace LogQuery.Yaml.Writer

open Text

/-- All characters are visible. -/
def Visible (cs : List Char) : Prop := ∀ c ∈ cs, isVisible c = true

theorem visible_of_all {cs : List Char} (h : cs.all isVisible = true) :
    Visible cs := List.all_eq_true.1 h

theorem visible_nil : Visible [] := fun _ hc => absurd hc List.not_mem_nil

theorem Visible.append {xs ys : List Char} (hxs : Visible xs)
    (hys : Visible ys) : Visible (xs ++ ys) := by
  intro c hc
  rcases List.mem_append.1 hc with hc | hc
  · exact hxs c hc
  · exact hys c hc

theorem Visible.cons {c : Char} {cs : List Char} (hc : isVisible c = true)
    (hcs : Visible cs) : Visible (c :: cs) := by
  intro d hd
  rcases List.mem_cons.1 hd with rfl | hd
  · exact hc
  · exact hcs d hd

theorem visible_replicate {c : Char} (hc : isVisible c = true) (n : Nat) :
    Visible (List.replicate n c) := by
  intro d hd
  rw [List.eq_of_mem_replicate hd]
  exact hc

/-- The indented line end. -/
theorem visible_continued : Visible continued := by
  intro c hc
  simp [continued, indentWidth] at hc
  rcases hc with rfl | rfl <;> rfl

-- ============================================================ single marks

theorem Visible.withMarks {run : List Char} (h : Visible run)
    (doubled : Bool) : Visible (withMarks doubled run) := by
  cases doubled with
  | false => exact h
  | true =>
    intro c hc
    obtain ⟨d, hd, hc⟩ := List.mem_flatMap.1 hc
    split at hc
    · simp at hc
      rw [hc]
      rfl
    · rw [List.mem_singleton.1 hc]
      exact h d hd

/-- What is written for runs of visible characters is visible. -/
theorem visible_writeRuns {cs : List Char} (hcs : Visible cs)
    (doubled isFirst : Bool) (column : Nat) :
    Visible (writeRuns doubled isFirst column (runs cs)) := by
  induction cs using runs_induction generalizing isFirst column with
  | nil => exact visible_nil
  | run c w cs hrun ih =>
    obtain ⟨x, column', hx, hwrite⟩ :=
      exists_writtenRun doubled isFirst column hrun
    have hword : Visible (c :: w) := fun d hd =>
      hcs d (List.mem_append_left cs hd)
    have hmore := ih (fun d hd => hcs d (by simp [hd])) false column'
    rw [hwrite]
    refine Visible.append ?_ hmore
    generalize c :: w = run at hx hword
    cases hx with
    | folded => exact visible_continued
    | breaks n =>
      exact ((visible_replicate rfl _).cons rfl).append
        (visible_replicate rfl _)
    | same => exact hword.withMarks doubled

-- ============================================================ double marks

/-- A hexadecimal digit is visible. -/
theorem isVisible_of_hexValue {c : Char} (h : (hexValue? c).isSome = true) :
    isVisible c = true := by
  have hbetween (a b : Char) (ha : ' ' ≤ a) (hb : b ≤ '~')
      (hc : a ≤ c ∧ c ≤ b) : isVisible c = true := by
    simp [isVisible, Char.le_trans ha hc.1, Char.le_trans hc.2 hb]
  unfold hexValue? at h
  split at h
  · next hc => exact hbetween '0' '9' (by decide) (by decide) hc
  · split at h
    · next hc => exact hbetween 'a' 'f' (by decide) (by decide) hc
    · split at h
      · next hc => exact hbetween 'A' 'F' (by decide) (by decide) hc
      · cases h

/-- What is written for a character with a backslash is visible. -/
theorem Escapes.visible {c : Char} {e : List Char} (he : Escapes c e) :
    Visible e := by
  cases he with
  | named letter _ _ _ hvisible =>
    exact (visible_nil.cons hvisible).cons rfl
  | numbered mark width _ hvisible =>
    refine Visible.cons rfl (Visible.cons hvisible ?_)
    intro d hd
    exact isVisible_of_hexValue
      (isSome_hexValue_of_mem (digitsValue_hexPadded width c.toNat) d hd)

/-- A character that is written as itself is visible. -/
theorem isVisible_of_escape_eq_none {c : Char} (h : escape? c = none) :
    isVisible c = true := by
  obtain ⟨hlow, hhigh, -, -⟩ := escape_eq_none h
  simp [isVisible, hlow, hhigh]

/-- The broken line. -/
theorem visible_breakBefore (c : Char) : Visible (breakBefore c) := by
  unfold breakBefore
  refine Visible.cons rfl (visible_continued.append ?_)
  split
  · exact visible_nil.cons rfl
  · exact visible_nil

/-- What is written in double marks is visible. -/
theorem visible_writeEscaped {held : List Char} (hheld : Visible held)
    (isFirst : Bool) (column : Nat) (cs : List Char) :
    Visible (writeEscaped isFirst column held cs) := by
  induction cs generalizing isFirst column held with
  | nil => exact hheld
  | cons c cs ih =>
    rw [writeEscaped]
    cases he : escape? c with
    | some e =>
      refine (hheld.append (escapes_of_escape he).visible).append ?_
      cases cs with
      | nil => exact visible_nil
      | cons d ds =>
        dsimp only
        split
        · exact (visible_breakBefore d).append (ih visible_nil _ _)
        · exact ih visible_nil _ _
    | none =>
      have hc := isVisible_of_escape_eq_none he
      dsimp only
      split
      · exact (hheld.append (visible_breakBefore c)).append
          (ih (visible_nil.cons hc) _ _)
      · exact ih (hheld.append (visible_nil.cons hc)) _ _

-- =================================================================== lists

/-- An item is visible. -/
theorem visible_item (s : String) : Visible (item s) := by
  unfold item
  dsimp only
  split
  · next h =>
    exact visible_writeRuns (visible_of_style (by rw [h]; decide)).1 _ _ _
  · next h =>
    have hruns := visible_writeRuns
      (visible_of_style (by rw [h]; decide)).1 true true 3
    exact (hruns.cons rfl).append (visible_nil.cons rfl)
  · exact ((visible_writeEscaped visible_nil true 3 s.toList).cons rfl).append
      (visible_nil.cons rfl)

/-- **A written list is visible.** -/
theorem visible_keyedList {key : String} (hkey : Visible key.toList)
    (items : List String) : Visible (keyedList key items).toList := by
  unfold keyedList
  split
  · rw [String.toList_append]
    exact hkey.append (visible_of_all (by decide))
  · rw [String.toList_ofList]
    refine hkey.append (Visible.cons rfl (Visible.cons rfl ?_))
    intro c hc
    obtain ⟨s, -, hc⟩ := List.mem_flatMap.1 hc
    have hline : Visible ('-' :: ' ' :: item s ++ ['\n']) :=
      (((visible_item s).cons rfl).cons rfl).append (visible_nil.cons rfl)
    exact hline c hc

end LogQuery.Yaml.Writer
