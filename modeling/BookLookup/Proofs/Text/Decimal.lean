import BookLookup.Text.Decimal

/-!
# Decimal texts are words of digits

The text of a number has at least one symbol, all of its symbols are ASCII
digits, and the number is read back from it, so that different numbers have
different texts.
-/

namespace BookLookup
namespace Decimal

theorem isDigit_of_mem_digits
    {number : Nat}
    {symbol : Char}
    (member : symbol ∈ digits number) :
    symbol.isDigit :=
  Nat.isDigit_of_mem_toDigits (by decide) (by decide) member

/-- Every symbol of a filled decimal text is a digit. -/
theorem isDigit_of_mem_padded
    {width number : Nat}
    {symbol : Char}
    (member : symbol ∈ padded width number) :
    symbol.isDigit := by
  rcases List.mem_append.mp member with zero | digit
  · rw [List.eq_of_mem_replicate zero]
    decide
  · exact isDigit_of_mem_digits digit

theorem digits_ne_nil (number : Nat) : digits number ≠ [] :=
  Nat.toDigits_ne_nil

/-- Only the text of zero begins with a zero. -/
theorem head?_digits_ne
    {number : Nat}
    (positive : 0 < number) :
    (digits number).head? ≠ some '0' := by
  induction number using Nat.strongRecOn with
  | ind number inductionHypothesis =>
      have onlyZero : ∀ value < 10, Nat.digitChar value = '0' -> value = 0 := by
        decide
      rw [digits, Nat.toDigits_eq_if (by decide)]
      split
      · rename_i small
        intro zero
        have := onlyZero number small (Option.some.inj zero)
        omega
      · have front := inductionHypothesis (number / 10) (by omega) (by omega)
        have nonempty := digits_ne_nil (number / 10)
        rw [digits] at front nonempty
        obtain ⟨first, others, shape⟩ := List.exists_cons_of_ne_nil nonempty
        rw [shape] at front ⊢
        exact front

theorem digitValue?_of_isDigit
    {symbol : Char}
    (digit : symbol.isDigit) :
    digitValue? symbol = some (symbol.toNat - '0'.toNat) := by
  have bounds : '0' ≤ symbol ∧ symbol ≤ '9' := by
    simpa [Char.isDigit, Char.le_def] using digit
  rw [digitValue?, if_pos bounds]

/-- Digits are read one after the other. -/
theorem readFrom_eq_ofDigitChars
    {symbols : List Char}
    (allDigits : ∀ symbol ∈ symbols, symbol.isDigit)
    (value : Nat) :
    readFrom value symbols = some (Nat.ofDigitChars 10 symbols value) := by
  induction symbols generalizing value with
  | nil => simp [readFrom]
  | cons symbol rest inductionHypothesis =>
      obtain ⟨here, inRest⟩ := List.forall_mem_cons.mp allDigits
      rw [readFrom, digitValue?_of_isDigit here, Nat.ofDigitChars_cons]
      exact inductionHypothesis inRest _

/-- Only digits have a value. -/
theorem isDigit_of_digitValue?_eq_some
    {symbol : Char}
    {value : Nat}
    (isValue : digitValue? symbol = some value) :
    symbol.isDigit := by
  unfold digitValue? at isValue
  split at isValue
  · rename_i bounds
    simpa [Char.isDigit, Char.le_def] using bounds
  · cases isValue

/-- Only digits are read. -/
theorem forall_isDigit_of_readFrom_eq_some
    {symbols : List Char}
    {value number : Nat}
    (read : readFrom value symbols = some number) :
    ∀ symbol ∈ symbols, symbol.isDigit := by
  induction symbols generalizing value with
  | nil => simp
  | cons symbol rest inductionHypothesis =>
      rw [readFrom] at read
      cases isValue : digitValue? symbol with
      | none =>
          rw [isValue] at read
          cases read
      | some digit =>
          rw [isValue] at read
          exact List.forall_mem_cons.mpr
            ⟨isDigit_of_digitValue?_eq_some isValue, inductionHypothesis read⟩

/-- What is read are one or more digits, and their number. -/
theorem read?_eq_some_iff
    {symbols : List Char}
    {number : Nat} :
    read? symbols = some number ↔
      symbols ≠ [] ∧ (∀ symbol ∈ symbols, symbol.isDigit) ∧
        Nat.ofDigitChars 10 symbols 0 = number := by
  cases symbols with
  | nil => simp [read?]
  | cons symbol rest =>
      rw [read?]
      constructor
      · intro read
        have allDigits := forall_isDigit_of_readFrom_eq_some read
        rw [readFrom_eq_ofDigitChars allDigits, Option.some.injEq] at read
        exact ⟨List.cons_ne_nil _ _, allDigits, read⟩
      · rintro ⟨-, allDigits, rfl⟩
        exact readFrom_eq_ofDigitChars allDigits 0

/-- A text is one or more ASCII digits, in front of which a plus sign may
stand, and writes their number. -/
inductive Writes : List Char -> Nat -> Prop where
  | unsigned
      {digits : List Char}
      (nonempty : digits ≠ [])
      (allDigits : ∀ symbol ∈ digits, symbol.isDigit) :
      Writes digits (Nat.ofDigitChars 10 digits 0)
  | plus
      {digits : List Char}
      (nonempty : digits ≠ [])
      (allDigits : ∀ symbol ∈ digits, symbol.isDigit) :
      Writes ('+' :: digits) (Nat.ofDigitChars 10 digits 0)

/-- A number below a bound is read from the texts that write it. -/
theorem readBelow?_eq_some_iff
    {bound number : Nat}
    {text : List Char} :
    readBelow? bound text = some number ↔
      Writes text number ∧ number < bound := by
  unfold readBelow?
  rw [Option.filter_eq_some_iff, decide_eq_true_eq]
  refine and_congr_left fun _ => ?_
  constructor
  · intro read
    split at read
    · obtain ⟨nonempty, allDigits, rfl⟩ := read?_eq_some_iff.mp read
      exact .plus nonempty allDigits
    · obtain ⟨nonempty, allDigits, rfl⟩ := read?_eq_some_iff.mp read
      exact .unsigned nonempty allDigits
  · intro writes
    cases writes with
    | plus nonempty allDigits =>
        exact read?_eq_some_iff.mpr ⟨nonempty, allDigits, rfl⟩
    | unsigned nonempty allDigits =>
        split
        · rename_i rest
          have plusDigit := allDigits '+' List.mem_cons_self
          exact absurd plusDigit (by decide)
        · exact read?_eq_some_iff.mpr ⟨nonempty, allDigits, rfl⟩

/-- A number is read back from its decimal text. -/
theorem read?_digits (number : Nat) : read? (digits number) = some number := by
  have allDigits : ∀ symbol ∈ digits number, symbol.isDigit :=
    fun _ => isDigit_of_mem_digits
  have value : Nat.ofDigitChars 10 (digits number) 0 = number := by
    simp [digits]
  obtain ⟨first, others, shape⟩ :=
    List.exists_cons_of_ne_nil (digits_ne_nil number)
  rw [shape] at allDigits value ⊢
  rw [read?, readFrom_eq_ofDigitChars allDigits, value]

theorem digits_injective : Function.Injective digits := by
  intro first second same
  have values := congrArg read? same
  rw [read?_digits, read?_digits] at values
  exact Option.some.inj values

theorem text_injective : Function.Injective text := by
  intro first second same
  exact digits_injective (String.ofList_inj.mp same)

end Decimal
end BookLookup
