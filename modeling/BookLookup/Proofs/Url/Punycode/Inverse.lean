import BookLookup.Proofs.Url.Punycode.Symbols
import Mathlib.Data.List.Sort
import Mathlib.Tactic.Ring

/-!
# Labels are read back from their ASCII forms

A number is read back from its digits as long as it stays below a bound that no
label of up to a thousand characters reaches. Writing and reading then go
through the same states: between two characters that are put in, the number of
states passed over is the difference of the two states, a state being counted
by its code point and its place.
-/

namespace BookLookup
namespace Punycode

/-! ## Numbers -/

/-- The bound that numbers stay below: the sixth power of the base less one. -/
def reach : Nat := 35 ^ 6

/-- The weight of a digit, as long as numbers stay within reach: digits whose
bound is one come first, and then, after at most one other, those whose bound is
the greatest. -/
def IsWeight (bias place weight : Nat) : Prop :=
  (∃ digits, weight = 35 ^ digits) ∨ bias + 26 ≤ place

/-- A weight is followed by a weight. -/
theorem IsWeight.next
    {bias place weight : Nat}
    (isWeight : IsWeight bias place weight) :
    IsWeight bias (place + 36) (weight * (36 - threshold place bias)) := by
  by_cases least : threshold place bias = 1
  · rcases isWeight with ⟨digits, rfl⟩ | far
    · exact .inl ⟨digits + 1, by rw [least, Nat.pow_succ]⟩
    · exact .inr (by omega)
  · right
    unfold threshold at least
    omega

/-- The weight after a digit of a number within reach stays below the limit. -/
theorem IsWeight.lt_limit
    {bias place weight total number : Nat}
    (isWeight : IsWeight bias place weight)
    (within : total < reach)
    (part : number * weight ≤ total)
    (continued : threshold place bias ≤ number) :
    weight * (36 - threshold place bias) < limit := by
  have bounds := threshold_mem_range place bias
  have limited : reach < limit := by decide
  rcases isWeight with ⟨digits, rfl⟩ | far
  · have few : 35 ^ digits < 35 ^ 6 := by
      calc 35 ^ digits ≤ number * 35 ^ digits :=
            Nat.le_mul_of_pos_left _ (by omega)
        _ ≤ total := part
        _ < 35 ^ 6 := within
    have below : digits < 6 := (Nat.pow_lt_pow_iff_right (by decide)).mp few
    calc 35 ^ digits * (36 - threshold place bias) ≤ 35 ^ digits * 35 :=
          Nat.mul_le_mul_left _ (by omega)
      _ = 35 ^ (digits + 1) := (Nat.pow_succ ..).symm
      _ ≤ 35 ^ 6 := Nat.pow_le_pow_right (by decide) (by omega)
      _ < limit := limited
  · have greatest : threshold place bias = 26 := by
      unfold threshold
      omega
    rw [greatest] at continued ⊢
    calc weight * (36 - 26) ≤ weight * number :=
          Nat.mul_le_mul_left _ (by omega)
      _ = number * weight := Nat.mul_comm ..
      _ ≤ total := part
      _ < reach := within
      _ < limit := limited

/-- A number is read back from its digits, whatever follows them. -/
theorem readNumber?_numberDigits
    {bias place weight before number : Nat}
    (isWeight : IsWeight bias place weight)
    (within : before + number * weight < reach)
    (rest : List Char) :
    readNumber? bias place weight before
        (numberDigits bias place number ++ rest) =
      some (before + number * weight, rest) := by
  have limited : reach < limit := by decide
  induction number using Nat.strongRecOn generalizing place weight before with
  | ind number inductionHypothesis =>
      have range := threshold_mem_range place bias
      generalize boundEq : threshold place bias = bound at range
      rw [numberDigits, boundEq]
      split
      · rename_i small
        rw [List.singleton_append, readNumber?,
          digitValue?_digit number (by omega)]
        simp only [boundEq]
        rw [if_neg (by omega), if_pos small]
      · rename_i large
        have isNext := isWeight.next
        have nextWeight := isWeight.lt_limit within (Nat.le_add_left _ _)
          (boundEq ▸ Nat.le_of_not_lt large)
        rw [boundEq] at isNext nextWeight
        have baseRange : 0 < 36 - bound ∧ bound + (36 - bound) = 36 := by omega
        generalize baseEq : 36 - bound = base at isNext nextWeight baseRange ⊢
        have below := Nat.mod_lt (number - bound) baseRange.1
        have divided := Nat.mod_add_div' (number - bound) base
        have smaller := Nat.div_le_self (number - bound) base
        generalize (number - bound) % base = remainder at below divided ⊢
        generalize (number - bound) / base = quotient at divided smaller ⊢
        have split : number = bound + remainder + quotient * base := by omega
        have whole : before + (bound + remainder) * weight +
            quotient * (weight * base) = before + number * weight := by
          rw [split]
          ring
        rw [List.cons_append, readNumber?, digitValue?_digit _ (by omega)]
        simp only [boundEq, baseEq]
        rw [if_neg (by omega), if_neg (by omega), if_neg (by omega),
          inductionHypothesis quotient (by omega) isNext (by omega), whole]

theorem numberDigits_ne_nil (bias place number : Nat) :
    numberDigits bias place number ≠ [] := by
  rw [numberDigits]
  split <;> simp

/-! ## Characters put in -/

/-- A state is told by how many states come before it. -/
theorem divMod_states
    (code gap : Nat)
    {count index : Nat}
    (inside : index < count) :
    code + (gap * count + index) / count = code + gap ∧
      (gap * count + index) % count = index := by
  have positive : 0 < count := by omega
  rw [Nat.mul_comm gap, Nat.mul_add_div positive, Nat.mul_add_mod,
    Nat.div_eq_of_lt inside, Nat.mod_eq_of_lt inside, Nat.add_zero]
  exact ⟨rfl, rfl⟩

/-- The digits of a number of states are read as one step, to the state that is
as many states ahead. -/
theorem readCodes?_numberDigits
    {steps bias code place passed index : Nat}
    {output rest : List Char}
    {symbol : Char}
    (within : place + passed < reach)
    (states : passed + code * (output.length + 1) + place =
      symbol.toNat * (output.length + 1) + index)
    (inside : index ≤ output.length) :
    readCodes? (steps + 1) bias code place output
        (numberDigits bias 36 passed ++ rest) =
      readCodes? steps (adapt passed (output.length + 1) (place = 0))
        symbol.toNat (index + 1) (output.insertIdx index symbol) rest := by
  have isWeight : IsWeight bias 36 1 := .inl ⟨0, rfl⟩
  have read := readNumber?_numberDigits isWeight
    (Nat.mul_one passed ▸ within) rest
  rw [Nat.mul_one] at read
  obtain ⟨gap, ahead⟩ : ∃ gap, symbol.toNat = code + gap := by
    apply Nat.exists_eq_add_of_le
    by_contra behind
    have less : (symbol.toNat + 1) * (output.length + 1) ≤
        code * (output.length + 1) := Nat.mul_le_mul_right _ (by omega)
    rw [Nat.add_mul] at less
    omega
  have number : place + passed = gap * (output.length + 1) + index := by
    rw [ahead, Nat.add_mul] at states
    omega
  obtain ⟨isCode, isIndex⟩ := divMod_states code gap (Nat.lt_succ_of_le inside)
  have valid : symbol.toNat < 0xD800 ∨
      (0xDFFF < symbol.toNat ∧ symbol.toNat < 0x110000) := symbol.valid
  have some : numberDigits bias 36 passed ++ rest ≠ [] :=
    List.append_ne_nil_of_left_ne_nil (numberDigits_ne_nil bias 36 passed) rest
  rw [readCodes?, read]
  · simp only [number, isCode, isIndex, ← ahead, if_pos valid, Char.ofNat_toNat]
    rw [← number, Nat.add_sub_cancel_left]
  · exact some

/-- A character put in behind a part stands behind it. -/
theorem insertIdx_length_append
    (front back : List Char)
    (symbol : Char) :
    (front ++ back).insertIdx front.length symbol =
      front ++ symbol :: back := by
  induction front with
  | nil => rfl
  | cons first others inductionHypothesis =>
      rw [List.cons_append, List.length_cons, List.insertIdx_succ_cons,
        inductionHypothesis, List.cons_append]

/-! ## The states of writing -/

/-- The characters of a label that have been put in when those below a code
point have been, and those of this code point in a part of the label. -/
def putIn (code : Nat) (gone ahead : List Char) : List Char :=
  gone.filter (·.toNat ≤ code) ++ ahead.filter (·.toNat < code)

/-- How many of them stand in that part. -/
def placeOf (code : Nat) (gone : List Char) : Nat :=
  (gone.filter (·.toNat ≤ code)).length

/-- What is being written agrees with what has been read: the label so far, the
code point and the place from which a reader goes on, and the states between
these and a code point and a place. -/
structure Agrees
    (basicCount : Nat)
    (writing : Writing)
    (output : List Char)
    (reached place code index : Nat) : Prop where
  /-- As many characters have been put in. -/
  count : writing.count = output.length
  /-- The number so far is the difference of the states. -/
  states : writing.passed + reached * (output.length + 1) + place =
    code * (output.length + 1) + index
  /-- Both know whether the next number is the first. -/
  first : writing.count = basicCount ↔ place = 0
  /-- As many characters at least are ASCII. -/
  basic : basicCount ≤ writing.count

/-- The digits written from a state on are read as a label. -/
def ReadsAs
    (label : List Char)
    (before after : Writing)
    (output : List Char)
    (reached place : Nat) : Prop :=
  ∃ digits, after.output = before.output ++ digits ∧
    ∀ steps ≥ digits.length,
      readCodes? steps before.bias reached place output digits = some label

variable {basicCount code index reached place : Nat}
variable {writing : Writing} {output gone ahead label : List Char}

/-- One more state is passed over. -/
theorem Agrees.pass
    (agrees : Agrees basicCount writing output reached place code index) :
    Agrees basicCount { writing with passed := writing.passed + 1 } output
      reached place code (index + 1) where
  count := agrees.count
  states := by
    have states := agrees.states
    simp only
    omega
  first := agrees.first
  basic := agrees.basic

/-- All states up to a later code point are passed over. -/
theorem Agrees.reachCode
    {next : Nat}
    (agrees : Agrees basicCount writing output reached place code 0)
    (ahead : code ≤ next) :
    Agrees basicCount
      { writing with
        passed := writing.passed + (next - code) * (writing.count + 1) }
      output reached place next 0 where
  count := agrees.count
  states := by
    have states := agrees.states
    have gap : next * (output.length + 1) =
        code * (output.length + 1) + (next - code) * (output.length + 1) := by
      rw [← Nat.add_mul, Nat.add_sub_cancel' ahead]
    simp only [agrees.count]
    omega
  first := agrees.first
  basic := agrees.basic

/-- Behind the last place the next code point begins. -/
theorem Agrees.passCode
    (agrees : Agrees basicCount writing output reached place code
      output.length) :
    Agrees basicCount { writing with passed := writing.passed + 1 } output
      reached place (code + 1) 0 where
  count := agrees.count
  states := by
    have states := agrees.pass.states
    rw [states, Nat.add_mul]
    omega
  first := agrees.first
  basic := agrees.basic

/-- A label within reach has numbers within reach. -/
theorem Agrees.within
    (agrees : Agrees basicCount writing output reached place code index)
    (inside : index ≤ output.length)
    (short : output.length ≤ 1000)
    (isCode : code < 0x110000) :
    place + writing.passed < reach := by
  have states := agrees.states
  have most : code * (output.length + 1) ≤ 0x10FFFF * 1001 :=
    Nat.mul_le_mul (by omega) (by omega)
  have bound : 0x10FFFF * 1001 + 1000 < reach := by decide
  omega

/-- A character of the code point is put in. -/
theorem Agrees.put
    {symbol : Char}
    (agrees : Agrees basicCount writing output reached place symbol.toNat index)
    (inside : index ≤ output.length) :
    Agrees basicCount (writing.step basicCount symbol.toNat symbol)
      (output.insertIdx index symbol) symbol.toNat (index + 1) symbol.toNat
      (index + 1) := by
  have more : (output.insertIdx index symbol).length = output.length + 1 :=
    List.length_insertIdx_of_le_length inside symbol
  have stepped : writing.step basicCount symbol.toNat symbol = {
      output := writing.output ++ numberDigits writing.bias 36 writing.passed
      passed := 0
      bias := adapt writing.passed (writing.count + 1)
        (writing.count = basicCount)
      count := writing.count + 1 } := by
    simp [Writing.step]
  have count := agrees.count
  have basic := agrees.basic
  rw [stepped]
  exact {
    count := by simp [more, count]
    states := by simp
    first := by
      simp only []
      omega
    basic := by
      simp only []
      omega }

/-- What is read after a character has been put in is read before it, too. -/
theorem ReadsAs.put
    {symbol : Char}
    {after : Writing}
    (agrees : Agrees basicCount writing output reached place symbol.toNat index)
    (inside : index ≤ output.length)
    (short : output.length ≤ 1000)
    (reads : ReadsAs label (writing.step basicCount symbol.toNat symbol) after
      (output.insertIdx index symbol) symbol.toNat (index + 1)) :
    ReadsAs label writing after output reached place := by
  obtain ⟨digits, written, read⟩ := reads
  have isCode : symbol.toNat < 0x110000 := by
    rcases symbol.valid with low | ⟨-, high⟩
    · have code : symbol.toNat < 0xD800 := low
      omega
    · exact high
  have stepOutput : (writing.step basicCount symbol.toNat symbol).output =
      writing.output ++ numberDigits writing.bias 36 writing.passed := by
    simp [Writing.step]
  have stepBias : (writing.step basicCount symbol.toNat symbol).bias =
      adapt writing.passed (output.length + 1) (decide (place = 0)) := by
    simp [Writing.step, agrees.count, ← agrees.first]
  refine ⟨numberDigits writing.bias 36 writing.passed ++ digits, ?_, ?_⟩
  · rw [written, stepOutput, List.append_assoc]
  · intro steps enough
    have some := List.length_pos_iff.mpr
      (numberDigits_ne_nil writing.bias 36 writing.passed)
    rw [List.length_append] at enough
    obtain ⟨less, rfl⟩ : ∃ less, steps = less + 1 :=
      Nat.exists_eq_add_one.mpr (by omega)
    rw [readCodes?_numberDigits (agrees.within inside short isCode)
      agrees.states inside, ← stepBias]
    exact read less (by omega)

/-- Going through the rest of a label puts in its characters of a code point. -/
theorem readsAs_foldl
    (finish : Writing -> Writing)
    (short : label.length ≤ 1000)
    (whole : gone ++ ahead = label)
    (agrees : Agrees basicCount writing output reached place code
      (placeOf code gone))
    (soFar : output = putIn code gone ahead)
    (finished : ∀ writing output reached place,
      Agrees basicCount writing output reached place code
        (placeOf code label) ->
      output = putIn code label [] ->
      ReadsAs label writing (finish writing) output reached place) :
    ReadsAs label writing
      (finish (ahead.foldl (Writing.step basicCount code) writing))
      output reached place := by
  -- `putIn` carries the induction: of the characters of this code point, those
  -- of the part gone through are in the output and those ahead are not.
  induction ahead generalizing gone writing output reached place with
  | nil =>
      rw [List.append_nil] at whole
      rw [whole] at agrees soFar
      exact finished writing output reached place agrees soFar
  | cons symbol rest inductionHypothesis =>
      have wholeRest : (gone ++ [symbol]) ++ rest = label := by
        rw [← whole, List.append_assoc, List.singleton_append]
      have inside : placeOf code gone ≤ output.length := by
        rw [soFar, putIn, List.length_append]
        exact Nat.le_add_right _ _
      have fits : output.length ≤ 1000 := by
        have goneLength := List.length_filter_le (·.toNat ≤ code) gone
        have restLength :=
          List.length_filter_le (·.toNat < code) (symbol :: rest)
        rw [← whole, List.length_append] at short
        rw [soFar, putIn, List.length_append]
        exact (Nat.add_le_add goneLength restLength).trans short
      rw [List.foldl_cons]
      rcases Nat.lt_trichotomy symbol.toNat code with below | same | above
      · have stepped : writing.step basicCount code symbol =
            { writing with passed := writing.passed + 1 } := if_pos below
        have placed : placeOf code (gone ++ [symbol]) =
            placeOf code gone + 1 := by
          simp [placeOf, Nat.le_of_lt below]
        have sameOutput : output = putIn code (gone ++ [symbol]) rest := by
          simp [soFar, putIn, below, Nat.le_of_lt below]
        rw [stepped]
        exact inductionHypothesis wholeRest (placed ▸ agrees.pass) sameOutput
      · subst same
        have placed : placeOf symbol.toNat (gone ++ [symbol]) =
            placeOf symbol.toNat gone + 1 := by
          simp [placeOf]
        have inserted : output.insertIdx (placeOf symbol.toNat gone) symbol =
            putIn symbol.toNat (gone ++ [symbol]) rest := by
          rw [soFar, putIn, placeOf, insertIdx_length_append]
          simp [putIn]
        exact ReadsAs.put agrees inside fits
          (inductionHypothesis wholeRest (placed ▸ agrees.put inside) inserted)
      · have stepped : writing.step basicCount code symbol = writing := by
          rw [Writing.step, if_neg (by omega), if_neg (by omega)]
        have placed : placeOf code (gone ++ [symbol]) = placeOf code gone := by
          simp [placeOf, Nat.not_le.mpr above]
        have sameOutput : output = putIn code (gone ++ [symbol]) rest := by
          simp [soFar, putIn, Nat.not_le.mpr above, Nat.not_lt.mpr above.le]
        rw [stepped]
        exact inductionHypothesis wholeRest (placed ▸ agrees) sameOutput

/-- Going through the code points of a label puts in all of its characters. -/
theorem readsAs_writeCodes
    {codes : List Nat}
    (short : label.length ≤ 1000)
    (increasing : codes.Pairwise (· < ·))
    (behind : ∀ other ∈ codes, code ≤ other)
    (left : ∀ symbol ∈ label, symbol.toNat < code ∨ symbol.toNat ∈ codes)
    (agrees : Agrees basicCount writing output reached place code 0)
    (soFar : output = label.filter (·.toNat < code)) :
    ReadsAs label writing (writeCodes label basicCount codes code writing)
      output reached place := by
  induction codes generalizing code writing output reached place with
  | nil =>
      have all : output = label := by
        rw [soFar, List.filter_eq_self]
        intro symbol member
        simpa using left symbol member
      refine ⟨[], by simp [writeCodes], ?_⟩
      intro steps _
      rw [all]
      cases steps <;> rfl
  | cons next others inductionHypothesis =>
      obtain ⟨nextLeast, othersIncreasing⟩ := List.pairwise_cons.mp increasing
      have ahead : code ≤ next := behind next List.mem_cons_self
      -- The label has no character between the two code points.
      have nothing : output = putIn next [] label := by
        rw [soFar, putIn, List.filter_nil, List.nil_append]
        apply List.filter_congr
        intro symbol member
        rw [decide_eq_decide]
        constructor
        · omega
        · intro below
          rcases left symbol member with before | isCode
          · exact before
          · rcases List.mem_cons.mp isCode with same | isOther
            · omega
            · have later := nextLeast _ isOther
              omega
      have leftBehind : ∀ symbol ∈ label,
          symbol.toNat < next + 1 ∨ symbol.toNat ∈ others := by
        intro symbol member
        rcases left symbol member with before | isCode
        · exact .inl (by omega)
        · rcases List.mem_cons.mp isCode with same | isOther
          · exact .inl (by omega)
          · exact .inr isOther
      exact readsAs_foldl
        (fun writing => writeCodes label basicCount others (next + 1)
          { writing with passed := writing.passed + 1 })
        short (List.nil_append label) (agrees.reachCode ahead) nothing <| by
          intro writing output reached place agrees soFar
          have upTo : output = label.filter (·.toNat ≤ next) := by
            rw [soFar, putIn, List.filter_nil, List.append_nil]
          have behindLast : placeOf next label = output.length := by
            rw [upTo, placeOf]
          rw [behindLast] at agrees
          refine inductionHypothesis othersIncreasing nextLeast leftBehind
            agrees.passCode ?_
          rw [upTo]
          apply List.filter_congr
          intro symbol _
          rw [decide_eq_decide]
          omega

/-! ## Labels -/

/-- Code points in order are increasing once those that are repeated have been
dropped. -/
theorem pairwise_eraseDups
    {codes : List Nat}
    (ordered : codes.Pairwise (· ≤ ·)) :
    codes.eraseDups.Pairwise (· < ·) := by
  induction length : codes.length using Nat.strongRecOn generalizing codes with
  | ind count inductionHypothesis =>
      cases codes with
      | nil => simp
      | cons code others =>
          obtain ⟨least, othersOrdered⟩ := List.pairwise_cons.mp ordered
          rw [List.eraseDups_cons, List.pairwise_cons]
          constructor
          · intro other member
            have kept := List.mem_filter.mp (List.mem_eraseDups.mp member)
            have differs : other ≠ code := by simpa using kept.2
            have above := least other kept.1
            omega
          · have fewer := List.length_filter_le (fun other => !other == code)
              others
            rw [List.length_cons] at length
            exact inductionHypothesis _ (by omega)
              (othersOrdered.sublist List.filter_sublist) rfl

theorem digit_plain :
    ∀ value < 36, (digit value).toNat < 0x80 ∧ digit value ≠ '-' := by
  decide

/-- A label is written as its ASCII characters, a hyphen if there are any, and
digits that are read into these characters. -/
theorem exists_digits
    (short : label.length ≤ 1000) :
    ∃ basic digits,
      encode label = basic ++ (if basic.isEmpty then [] else ['-']) ++ digits ∧
      (∀ symbol ∈ basic, symbol.toNat < 0x80) ∧
      (∀ symbol ∈ digits, ∃ value < 36, symbol = digit value) ∧
      readCodes? digits.length 72 0x80 0 basic digits = some label := by
  let basic := label.filter (·.toNat < 0x80)
  let beyond := (label.filter (0x80 ≤ ·.toNat)).map Char.toNat
  let start : Writing := ⟨[], 0, 72, basic.length⟩
  have increasing : beyond.mergeSort.eraseDups.Pairwise (· < ·) := by
    apply pairwise_eraseDups
    exact List.pairwise_mergeSort' (· ≤ ·) beyond
  have isCode (code : Nat) : code ∈ beyond.mergeSort.eraseDups ↔
      ∃ symbol ∈ label, 0x80 ≤ symbol.toNat ∧ symbol.toNat = code := by
    rw [List.mem_eraseDups, List.mem_mergeSort]
    simp [beyond, and_assoc]
  have agrees : Agrees basic.length start basic 0x80 0 0x80 0 :=
    { count := rfl, states := by simp [start], first := by simp [start]
      basic := Nat.le_refl _ }
  have least : ∀ code ∈ beyond.mergeSort.eraseDups, 0x80 ≤ code := by
    intro code member
    obtain ⟨symbol, -, least, rfl⟩ := (isCode code).mp member
    exact least
  have left : ∀ symbol ∈ label, symbol.toNat < 0x80 ∨
      symbol.toNat ∈ beyond.mergeSort.eraseDups := by
    intro symbol member
    by_cases ascii : symbol.toNat < 0x80
    · exact .inl ascii
    · exact .inr ((isCode _).mpr ⟨symbol, member, by omega, rfl⟩)
  obtain ⟨digits, written, read⟩ :=
    readsAs_writeCodes short increasing least left agrees rfl
  refine ⟨basic, digits, ?_, ?_, ?_, read digits.length (Nat.le_refl _)⟩
  · rw [← List.nil_append digits, ← written]
    rfl
  · intro symbol member
    exact of_decide_eq_true (List.mem_filter.mp member).2
  · intro symbol member
    have inOutput : symbol ∈ (writeCodes label basic.length
        beyond.mergeSort.eraseDups 0x80 start).output :=
      written ▸ List.mem_append_right _ member
    rcases mem_writeCodes inOutput with none | isDigit
    · cases none
    · exact isDigit

/-- A label of up to a thousand characters is read back from its ASCII form. -/
theorem decode?_encode
    (short : label.length ≤ 1000) :
    decode? (encode label) = some label := by
  obtain ⟨basic, digits, shape, basicAscii, areDigits, read⟩ :=
    exists_digits short
  have plain : '-' ∉ digits := by
    intro member
    obtain ⟨value, below, same⟩ := areDigits '-' member
    exact (digit_plain value below).2 same.symm
  have digitsAscii : ∀ symbol ∈ digits, symbol.toNat < 0x80 := by
    intro symbol member
    obtain ⟨value, below, rfl⟩ := areDigits symbol member
    exact (digit_plain value below).1
  rw [shape]
  by_cases empty : basic = []
  · subst empty
    exact (decode?_digits digitsAscii plain).trans read
  · have front : (if basic.isEmpty then [] else ['-']) = ['-'] :=
      if_neg (by simpa using empty)
    have ascii : ∀ symbol ∈ basic ++ '-' :: digits, symbol.toNat < 0x80 := by
      rw [List.forall_mem_append, List.forall_mem_cons]
      exact ⟨basicAscii, by decide, digitsAscii⟩
    rw [front, List.append_assoc, List.singleton_append,
      decode?_append ascii plain, if_neg empty]
    exact read

end Punycode
end BookLookup
