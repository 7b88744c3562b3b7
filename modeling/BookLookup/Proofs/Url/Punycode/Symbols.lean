import BookLookup.Url.Punycode

/-!
# Labels and their ASCII forms

The ASCII form of a label is made of the ASCII characters of the label, of
hyphens and of digits.
-/

namespace BookLookup
namespace Punycode

/-! ## The characters of an ASCII form -/

theorem digitValue?_digit : ∀ value < 36, digitValue? (digit value) = some value := by
  decide

/-- The digits of a number are digits. -/
theorem exists_of_mem_numberDigits
    {bias place number : Nat}
    {symbol : Char}
    (member : symbol ∈ numberDigits bias place number) :
    ∃ value < 36, symbol = digit value := by
  fun_induction numberDigits bias place number with
  | case1 place number bound small =>
      have range := threshold_mem_range place bias
      exact ⟨number, by omega, List.mem_singleton.mp member⟩
  | case2 place number bound large inductionHypothesis =>
      have range := threshold_mem_range place bias
      have below := Nat.mod_lt (number - bound) (y := 36 - bound) (by omega)
      rcases List.mem_cons.mp member with here | behind
      · exact ⟨_, by omega, here⟩
      · exact inductionHypothesis behind

/-- Whatever is written for a character is digits. -/
theorem Writing.mem_step
    {basicCount code : Nat}
    {writing : Writing}
    {symbol written : Char}
    (member : written ∈ (writing.step basicCount code symbol).output) :
    written ∈ writing.output ∨ ∃ value < 36, written = digit value := by
  unfold Writing.step at member
  split at member
  · exact .inl member
  · split at member
    · rcases List.mem_append.mp member with before | here
      · exact .inl before
      · exact .inr (exists_of_mem_numberDigits here)
    · exact .inl member

/-- Whatever is written for the characters of a label is digits. -/
theorem Writing.mem_foldl_step
    {basicCount code : Nat}
    {label : List Char}
    {writing : Writing}
    {written : Char}
    (member : written ∈
      (label.foldl (Writing.step basicCount code) writing).output) :
    written ∈ writing.output ∨ ∃ value < 36, written = digit value := by
  induction label generalizing writing with
  | nil => exact .inl member
  | cons symbol rest inductionHypothesis =>
      rcases inductionHypothesis member with inStep | isDigit
      · exact mem_step inStep
      · exact .inr isDigit

/-- Whatever is written for some code points is digits. -/
theorem mem_writeCodes
    {label : List Char}
    {basicCount reached : Nat}
    {codes : List Nat}
    {writing : Writing}
    {written : Char}
    (member : written ∈
      (writeCodes label basicCount codes reached writing).output) :
    written ∈ writing.output ∨ ∃ value < 36, written = digit value := by
  induction codes generalizing reached writing with
  | nil => exact .inl member
  | cons code others inductionHypothesis =>
      rw [writeCodes] at member
      rcases inductionHypothesis member with before | isDigit
      · have inStep : written ∈
            (label.foldl (Writing.step basicCount code)
              { writing with
                passed := writing.passed +
                  (code - reached) * (writing.count + 1) }).output := before
        exact (Writing.mem_foldl_step inStep :)
      · exact .inr isDigit

/-- The ASCII form of a label is made of its ASCII characters, a hyphen and
digits. -/
theorem mem_encode
    {label : List Char}
    {symbol : Char}
    (member : symbol ∈ encode label) :
    (symbol ∈ label ∧ symbol.toNat < 0x80) ∨ symbol = '-' ∨
      ∃ value < 36, symbol = digit value := by
  unfold encode at member
  simp only [] at member
  rcases List.mem_append.mp member with front | inNumbers
  · rcases List.mem_append.mp front with isBasic | isHyphen
    · left
      simpa using isBasic
    · split at isHyphen
      · cases isHyphen
      · exact .inr (.inl (List.mem_singleton.mp isHyphen))
  · rcases mem_writeCodes inNumbers with none | isDigit
    · cases none
    · exact .inr (.inr isDigit)

/-! ## The characters of what is read -/

/-- Only digits are read as a number. -/
theorem digits_of_readNumber?
    {bias place weight number result : Nat}
    {digits rest : List Char}
    (read : readNumber? bias place weight number digits = some (result, rest)) :
    ∀ symbol ∈ digits, symbol ∈ rest ∨ (digitValue? symbol).isSome := by
  induction digits generalizing place weight number with
  | nil => simp
  | cons symbol others inductionHypothesis =>
      unfold readNumber? at read
      cases value : digitValue? symbol with
      | none => simp [value] at read
      | some digit =>
          simp only [value] at read
          rw [List.forall_mem_cons]
          refine ⟨.inr (by simp [value]), ?_⟩
          split at read
          · cases read
          · split at read
            · intro other member
              cases read
              exact .inl member
            · split at read
              · cases read
              · exact inductionHypothesis read

/-- Only digits are read, and nothing is taken out. -/
theorem mem_of_readCodes?
    {steps bias reached place : Nat}
    {output digits label : List Char}
    (read : readCodes? steps bias reached place output digits = some label) :
    (∀ symbol ∈ digits, (digitValue? symbol).isSome) ∧
      ∀ symbol ∈ output, symbol ∈ label := by
  induction steps generalizing bias reached place output digits with
  | zero =>
      cases digits with
      | nil =>
          cases read
          exact ⟨by simp, fun _ member => member⟩
      | cons symbol others => cases read
  | succ steps inductionHypothesis =>
      cases digits with
      | nil =>
          cases read
          exact ⟨by simp, fun _ member => member⟩
      | cons symbol others =>
          unfold readCodes? at read
          split at read
          · cases read
          · rename_i number rest isNumber
            simp only [] at read
            split at read
            · obtain ⟨behind, kept⟩ := inductionHypothesis read
              constructor
              · intro other member
                rcases digits_of_readNumber? isNumber other member with
                  inRest | isDigit
                · exact behind other inRest
                · exact isDigit
              · intro other member
                have within : number % (output.length + 1) ≤ output.length :=
                  Nat.le_of_lt_succ (Nat.mod_lt _ (Nat.succ_pos _))
                exact kept other
                  ((List.mem_insertIdx within).mpr (.inr member))
            · cases read

/-- Digits without a hyphen before them are read as they are. -/
theorem decode?_digits
    {digits : List Char}
    (ascii : ∀ symbol ∈ digits, symbol.toNat < 0x80)
    (plain : '-' ∉ digits) :
    decode? digits = readCodes? digits.length 72 0x80 0 [] digits := by
  have all : digits.reverse.takeWhile (· ≠ '-') = digits.reverse := by
    rw [← List.append_nil digits.reverse, List.takeWhile_append_of_pos]
    · rfl
    · intro symbol member
      exact decide_eq_true fun same => plain (same ▸ List.mem_reverse.mp member)
  have accepted : digits.any (0x80 ≤ ·.toNat) = false := by
    simpa using ascii
  simp only [decode?, all, accepted, List.reverse_reverse, Nat.sub_self,
    List.take_zero, List.dropLast_nil]
  rfl

/-- Digits behind characters and a hyphen are read into these characters. -/
theorem decode?_append
    {basic digits : List Char}
    (ascii : ∀ symbol ∈ basic ++ '-' :: digits, symbol.toNat < 0x80)
    (plain : '-' ∉ digits) :
    decode? (basic ++ '-' :: digits) =
      if basic = [] then none
      else readCodes? digits.length 72 0x80 0 basic digits := by
  have behind : (basic ++ '-' :: digits).reverse.takeWhile (· ≠ '-') =
      digits.reverse := by
    have all : ∀ symbol ∈ digits.reverse, decide (symbol ≠ '-') = true := by
      intro symbol member
      exact decide_eq_true fun same => plain (same ▸ List.mem_reverse.mp member)
    rw [List.reverse_append, List.reverse_cons, List.append_assoc,
      List.takeWhile_append_of_pos all]
    simp
  have accepted : (basic ++ '-' :: digits).any (0x80 ≤ ·.toNat) = false := by
    rw [List.any_eq_false]
    simpa using ascii
  have front : (basic ++ '-' :: digits).take
      ((basic ++ '-' :: digits).length - digits.length) = basic ++ ['-'] := by
    rw [List.append_cons, List.length_append, Nat.add_sub_cancel,
      List.take_left]
  simp only [decode?, behind, List.reverse_reverse, front, accepted,
    List.dropLast_concat]
  simp

/-- An ASCII form that is read is made of characters of the label, hyphens and
digits. -/
theorem mem_of_decode?
    {text label : List Char}
    (read : decode? text = some label) :
    ∀ symbol ∈ text, symbol.toNat < 0x80 ∧
      (symbol ∈ label ∨ symbol = '-' ∨ (digitValue? symbol).isSome) := by
  have ascii : ∀ symbol ∈ text, symbol.toNat < 0x80 := by
    unfold decode? at read
    simp only [] at read
    split at read
    · cases read
    · rename_i accepted
      rw [Bool.or_eq_true, not_or, Bool.not_eq_true, List.any_eq_false]
        at accepted
      simpa using accepted.1
  intro symbol member
  refine ⟨ascii symbol member, ?_⟩
  by_cases hyphen : '-' ∈ text
  · obtain ⟨after, before, cut, plain⟩ :=
      List.eq_append_cons_of_mem (List.mem_reverse.mpr hyphen)
    have shape : text = before.reverse ++ '-' :: after.reverse := by
      rw [← List.reverse_reverse text, cut]
      simp
    rw [shape] at read ascii member
    rw [decode?_append ascii (by simpa using plain)] at read
    split at read
    · cases read
    · obtain ⟨areDigits, kept⟩ := mem_of_readCodes? read
      rcases List.mem_append.mp member with inBasic | behind
      · exact .inl (kept symbol inBasic)
      · rcases List.mem_cons.mp behind with isHyphen | inDigits
        · exact .inr (.inl isHyphen)
        · exact .inr (.inr (areDigits symbol inDigits))
  · rw [decode?_digits ascii hyphen] at read
    exact .inr (.inr ((mem_of_readCodes? read).1 symbol member))

end Punycode
end BookLookup
