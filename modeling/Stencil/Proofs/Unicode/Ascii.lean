import Mathlib
import Stencil.Unicode.Case
import Stencil.Unicode.Letter

/-!
# ASCII text

Below 128 the classes of characters and the case mappings need no table: they are those of `Char`. With
that a law about ASCII text comes down to the laws of `Char.toUpper` and `Char.toLower`.
-/

set_option autoImplicit false

namespace Stencil.Unicode

/-- One of the first 128 characters. -/
def IsAscii (c : Char) : Prop :=
  c.toNat < 128

namespace IsAscii

variable {c : Char}

theorem isUppercase_eq (h : IsAscii c) : isUppercase c = c.isUpper := if_pos h

theorem isLowercase_eq (h : IsAscii c) : isLowercase c = c.isLower := if_pos h

theorem isAlphabetic_eq (h : IsAscii c) : isAlphabetic c = c.isAlpha := if_pos h

theorem isNumeric_eq (h : IsAscii c) : isNumeric c = c.isDigit := if_pos h

theorem isAlphanumeric_eq (h : IsAscii c) : isAlphanumeric c = (c.isAlpha || c.isDigit) := by
  rw [isAlphanumeric, h.isAlphabetic_eq, h.isNumeric_eq]

theorem upper_eq (h : IsAscii c) : upper c = [c.toUpper] := if_pos h

theorem lower_eq (h : IsAscii c) : lower c = [c.toLower] := if_pos h

theorem toUpper (h : IsAscii c) : IsAscii c.toUpper := by
  by_cases hlower : c.isLower
  · rw [Char.toUpper_eq_of_isLower hlower]
    unfold IsAscii at h ⊢
    rw [Char.toNat_ofNat, if_pos (Or.inl (by omega))]
    omega
  · rwa [Char.toUpper_eq_of_not_isLower hlower]

theorem toLower (h : IsAscii c) : IsAscii c.toLower := by
  by_cases hupper : c.isUpper
  · have hle : c.toNat ≤ 90 := by
      simp only [Char.isUpper, decide_eq_true_eq, UInt32.le_iff_toNat_le] at hupper
      exact hupper.2
    rw [Char.toLower_eq_of_isUpper hupper]
    unfold IsAscii
    rw [Char.toNat_ofNat, if_pos (Or.inl (by omega))]
    omega
  · rwa [Char.toLower_eq_of_not_isUpper hupper]

/-- The one letter of which the lower case depends on what stands around it is not among them. -/
theorem not_sigma (h : IsAscii c) : c ≠ 'Σ' := by
  rintro rfl
  exact absurd h (show ¬ ('Σ'.toNat < 128) by decide)

end IsAscii

/-- In ASCII the lower case of a text is that of each character. -/
theorem lowerAfter_of_isAscii {cs : List Char} (h : ∀ c ∈ cs, IsAscii c) (before : List Char) :
    lowerAfter before cs = cs.map Char.toLower := by
  induction cs generalizing before with
  | nil => rfl
  | cons c cs ih =>
    obtain ⟨hc, hcs⟩ := List.forall_mem_cons.1 h
    rw [lowerAfter, if_neg hc.not_sigma, hc.lower_eq, ih hcs]
    rfl

end Stencil.Unicode
