import BookLookup.Text.Hex
import Mathlib.Data.Nat.Digits.Defs

/-!
# Numbers are read back from their digits

A reader that takes one digit after the other, and multiplies what it has by
the base before each, reads every number back from its digits. Octets are read
back from two digits each.
-/

namespace BookLookup
namespace Digits

/-- Reading the digits of a number one after the other gives the number. -/
theorem foldlM_toDigits
    {base : Nat}
    {step : Nat -> Char -> Option Nat}
    (base_pos : 1 < base)
    (steps : ∀ value, ∀ digit < base,
      step value (Nat.digitChar digit) = some (base * value + digit))
    (number : Nat) :
    (Nat.toDigits base number).foldlM step 0 = some number := by
  induction number using Nat.strongRecOn with
  | ind number inductionHypothesis =>
      rw [Nat.toDigits_eq_if base_pos]
      split
      · rename_i small
        simp [steps 0 number small]
      · rename_i large
        have front := inductionHypothesis (number / base)
          (Nat.div_lt_self (by omega) base_pos)
        have last := steps (number / base) (number % base)
          (Nat.mod_lt _ (by omega))
        rw [List.foldlM_append, front]
        simp [last, Nat.div_add_mod]

/-- Every digit is the digit of a number below the base. -/
theorem exists_of_mem_toDigits
    {base number : Nat}
    {symbol : Char}
    (base_pos : 1 < base)
    (member : symbol ∈ Nat.toDigits base number) :
    ∃ digit < base, symbol = Nat.digitChar digit := by
  induction number using Nat.strongRecOn with
  | ind number inductionHypothesis =>
      rw [Nat.toDigits_eq_if base_pos] at member
      split at member
      · rename_i small
        exact ⟨number, small, List.mem_singleton.mp member⟩
      · rename_i large
        rcases List.mem_append.mp member with inFront | isLast
        · exact inductionHypothesis _
            (Nat.div_lt_self (by omega) base_pos) inFront
        · exact ⟨number % base, Nat.mod_lt _ (by omega),
            List.mem_singleton.mp isLast⟩

end Digits

namespace Hex

theorem digitValue?_digitChar :
    ∀ value < 16, digitValue? (Nat.digitChar value) = some value := by
  decide

theorem digitValue?_lowerDigit :
    ∀ value < 16, digitValue? (lowerDigit value) = some value := by
  decide

/-- Octets are read back from their digits. -/
theorem read?_lower (octets : List UInt8) :
    read? (lower octets) = some octets := by
  induction octets with
  | nil => rfl
  | cons octet rest inductionHypothesis =>
      have below := octet.toNat_lt
      have high := digitValue?_lowerDigit (octet.toNat / 16) (by omega)
      have low := digitValue?_lowerDigit (octet.toNat % 16) (by omega)
      have whole : 16 * (octet.toNat / 16) + octet.toNat % 16 = octet.toNat := by
        omega
      have digits : lower (octet :: rest) =
          lowerDigit (octet.toNat / 16) :: lowerDigit (octet.toNat % 16) ::
            lower rest := rfl
      rw [digits, read?, high, low, inductionHypothesis]
      simp only [whole, UInt8.ofNat_toNat]

/-- A digit is less than the base. -/
theorem lt_of_digitValue?_eq_some
    {symbol : Char}
    {digit : Nat}
    (isDigit : digitValue? symbol = some digit) :
    digit < 16 := by
  unfold digitValue? at isDigit
  simp only [] at isDigit
  split at isDigit
  · simp at isDigit
    omega
  · split at isDigit
    · simp at isDigit
      omega
    · split at isDigit
      · simp at isDigit
        omega
      · cases isDigit

end Hex
end BookLookup
