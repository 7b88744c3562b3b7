import BookLookup.Proofs.Text.Decimal
import Mathlib.Algebra.Ring.Nat

/-!
# Decimals of a fixed width

A number below a power of ten has as many digits as the exponent says once it is
filled with zeros. It is read back from them, and of two numbers that are filled
to the same width the greater is also the later text.
-/

namespace BookLookup

/-- Of two fronts of the same length the earlier decides, whatever follows. -/
theorem append_lt_append_of_lt
    {front other back rest : List Char}
    (sameLength : front.length = other.length)
    (less : front < other) :
    front ++ back < other ++ rest := by
  induction front generalizing other with
  | nil =>
      rw [List.length_eq_zero_iff.mp sameLength.symm] at less
      exact absurd less (List.lt_irrefl [])
  | cons symbol symbols inductionHypothesis =>
      cases other with
      | nil => cases sameLength
      | cons first others =>
          rw [List.cons_append, List.cons_append, List.cons_lt_cons_iff]
          rcases List.cons_lt_cons_iff.mp less with earlier | ⟨same, onwards⟩
          · exact .inl earlier
          · exact .inr ⟨same,
              inductionHypothesis (Nat.succ.inj sameLength) onwards⟩

namespace Decimal

/-- A number below a power of ten fills its width. -/
theorem length_padded
    {width number : Nat}
    (positive : 0 < width)
    (below : number < 10 ^ width) :
    (padded width number).length = width := by
  have fits : (digits number).length ≤ width :=
    (Nat.length_toDigits_le_iff (by decide) positive).mpr below
  rw [padded, List.length_append, List.length_replicate]
  omega

theorem read?_padded (width number : Nat) :
    read? (padded width number) = some number := by
  refine read?_eq_some_iff.mpr ⟨?_, fun _ => isDigit_of_mem_padded, ?_⟩
  · exact List.append_ne_nil_of_right_ne_nil _ (digits_ne_nil number)
  · rw [padded, Nat.ofDigitChars_append, Nat.ofDigitChars_replicate_zero,
      Nat.mul_zero, digits, Nat.ofDigitChars_ten_toDigits]

/-- The last digit of a filled text is that of the number. -/
theorem padded_add_two (width number : Nat) :
    padded (width + 2) number =
      padded (width + 1) (number / 10) ++ [Nat.digitChar (number % 10)] := by
  unfold padded digits
  rw [Nat.toDigits_eq_if (by decide : 1 < 10) (n := number)]
  split
  · rename_i small
    have zero : Nat.toDigits 10 (number / 10) = ['0'] := by
      rw [Nat.div_eq_of_lt small]
      rfl
    rw [zero, Nat.mod_eq_of_lt small, List.length_singleton,
      List.length_singleton, Nat.add_sub_cancel]
    exact congrArg (· ++ [Nat.digitChar number]) List.replicate_succ'
  · rw [List.length_append, List.length_singleton, ← List.append_assoc]
    congr 3
    omega

theorem padded_one {digit : Nat} (below : digit < 10) :
    padded 1 digit = [Nat.digitChar digit] := by
  rw [padded, digits, Nat.toDigits_of_lt_base below]
  rfl

theorem digitChar_lt_digitChar :
    ∀ second < 10, ∀ first < second,
      Nat.digitChar first < Nat.digitChar second := by
  decide

/-- Of two numbers of the same width the greater is the later text. -/
theorem padded_lt_padded
    {width first second : Nat}
    (less : first < second)
    (below : second < 10 ^ (width + 1)) :
    padded (width + 1) first < padded (width + 1) second := by
  induction width generalizing first second with
  | zero =>
      rw [padded_one (by omega), padded_one below, List.cons_lt_cons_iff]
      exact .inl (digitChar_lt_digitChar second below first less)
  | succ width inductionHypothesis =>
      rw [padded_add_two, padded_add_two]
      rw [Nat.pow_succ] at below
      have belowFront : second / 10 < 10 ^ (width + 1) := by omega
      rcases Nat.lt_or_ge (first / 10) (second / 10) with earlier | notEarlier
      · have sameLength : (padded (width + 1) (first / 10)).length =
            (padded (width + 1) (second / 10)).length := by
          rw [length_padded (Nat.succ_pos width) (by omega),
            length_padded (Nat.succ_pos width) belowFront]
        exact append_lt_append_of_lt sameLength
          (inductionHypothesis earlier belowFront)
      · have sameFront : first / 10 = second / 10 := by omega
        rw [sameFront]
        refine List.append_left_lt (List.cons_lt_cons_iff.mpr (.inl ?_))
        exact digitChar_lt_digitChar _ (by omega) _ (by omega)

end Decimal
end BookLookup
