/-
Numbers in hexadecimal read back.

A number is written with at least so many digits, and the value of the digits
is the number, in capitals too.
-/
import Mathlib.Data.List.Induction
import LogQuery.Text.Hex

namespace LogQuery.Text

/-- A digit in capitals has the value that it stands for. -/
theorem hexValue_digitChar {d : Nat} (h : d < 16) :
    hexValue? d.digitChar.toUpper = some d := by
  decide +revert

/-- One more digit. -/
theorem digitsValue_concat {cs : List Char} {c : Char} {n d : Nat}
    (hcs : digitsValue? 16 cs = some n) (hc : hexValue? c = some d)
    (hd : d < 16) : digitsValue? 16 (cs ++ [c]) = some (n * 16 + d) := by
  unfold digitsValue? at hcs ⊢
  rw [List.foldl_append, hcs]
  simp [hc, hd]

/-- Zeros in front count for nothing. -/
theorem digitsValue_zeros (k : Nat) (cs : List Char) :
    digitsValue? 16 (List.replicate k '0' ++ cs) = digitsValue? 16 cs := by
  induction k with
  | zero => rfl
  | succ k ih => exact ih

/-- The digits of a number have it for their value. -/
theorem digitsValue_toDigits (n : Nat) :
    digitsValue? 16 ((Nat.toDigits 16 n).map (·.toUpper)) = some n := by
  induction n using Nat.strongRecOn with
  | _ n ih =>
    rw [Nat.toDigits_eq_if (by decide)]
    split
    · next h =>
      have hone : digitsValue? 16 ([] ++ [n.digitChar.toUpper])
          = some (0 * 16 + n) :=
        digitsValue_concat rfl (hexValue_digitChar h) h
      rwa [Nat.zero_mul, Nat.zero_add] at hone
    · have hlt : n % 16 < 16 := Nat.mod_lt n (by decide)
      rw [List.map_append, List.map_singleton,
        digitsValue_concat (ih (n / 16) (by omega)) (hexValue_digitChar hlt)
          hlt, Nat.div_add_mod']

/-- The digits that a number is padded to, in capitals. -/
theorem map_toUpper_hexPadded (width n : Nat) :
    (hexPadded width n).toList.map (·.toUpper)
      = List.replicate (width - (Nat.toDigits 16 n).length) '0'
        ++ (Nat.toDigits 16 n).map (·.toUpper) := by
  simp [hexPadded]

/-- A padded number has itself for its value. -/
theorem digitsValue_hexPadded (width n : Nat) :
    digitsValue? 16 ((hexPadded width n).toList.map (·.toUpper))
      = some n := by
  rw [map_toUpper_hexPadded, digitsValue_zeros, digitsValue_toDigits]

/-- A number that fits is padded to the width exactly. -/
theorem length_hexPadded {width n : Nat} (hwidth : 0 < width)
    (h : n < Nat.pow 16 width) :
    ((hexPadded width n).toList.map (·.toUpper)).length = width := by
  have hfits := (Nat.length_toDigits_le_iff (by decide) hwidth).2 h
  rw [map_toUpper_hexPadded, List.length_append, List.length_replicate,
    List.length_map]
  omega

/-- Characters that have a value are digits. -/
theorem isSome_hexValue_of_mem {cs : List Char} {n : Nat}
    (h : digitsValue? 16 cs = some n) :
    ∀ c ∈ cs, (hexValue? c).isSome = true := by
  induction cs using List.reverseRecOn generalizing n with
  | nil => simp
  | append_singleton cs c ih =>
    unfold digitsValue? at h ih
    rw [List.foldl_append, List.foldl_cons, List.foldl_nil] at h
    obtain ⟨m, hm, h⟩ := Option.bind_eq_some_iff.1 h
    obtain ⟨d, hd, -⟩ := Option.bind_eq_some_iff.1 h
    intro x hx
    rcases List.mem_append.1 hx with hx | hx
    · exact ih hm x hx
    · rw [List.mem_singleton.1 hx, hd]; rfl

end LogQuery.Text
